import FsidRegistry.Proofs.Server.Live

/-!
# A graceful stop loses no response

A history is a run together with what each connection has exchanged: the request packets that it
received, what its handlers returned, and the bytes that it wrote.  In a calm history no handler
faults, no write fails or is cut short, and every stop is graceful.

* `Answered`: in a list of exchanges every request is followed by one response, which is the whole
  response to that request.
* `Connection.Step.follows`: a step of a connection's task keeps its exchanges in line with the
  place where the task stands (`Follows`).
* `History.faithful`: so it is with every connection in a calm history.
* `drain_loses_no_response`: a stop that sees no live connection finds every request answered.
-/

namespace FsidRegistry

/-! ## Exchanges -/

/-- What a connection takes from its client or its handlers, and what it gives away. -/
inductive Exchange
  | request (packet : ByteArray)
  | result (result : Except Error String)
  | response (bytes : ByteArray)
  /-- The connection leaves the tracker. -/
  | left

def Exchange.isRequest : Exchange → Bool
  | .request _ => true
  | _ => false

/-- Every request in a list of exchanges is followed by one response, which is all of the response
to that request. -/
inductive Answered {η : Type} (table : HandlerTable η) : List Exchange → Prop
  | none : Answered table []
  | onTheSpot (packet : ByteArray) (response : Response) (rest : List Exchange)
      (h : Request.dispatch table packet = .respond response) (hr : Answered table rest) :
    Answered table (.request packet :: .response (Text.encode response.text) :: rest)
  | byHandler (packet : ByteArray) (handler : η) (argument : String)
      (result : Except Error String) (rest : List Exchange)
      (h : Request.dispatch table packet = .call handler argument) (hr : Answered table rest) :
    Answered table (.request packet :: .result result ::
      .response (Text.encode (Response.ofResult result).text) :: rest)

theorem Answered.append {η : Type} {table : HandlerTable η} {xs ys : List Exchange}
    (hx : Answered table xs) (hy : Answered table ys) : Answered table (xs ++ ys) := by
  induction hx with
  | none => exact hy
  | onTheSpot packet response rest h _ ih => exact .onTheSpot packet response _ h ih
  | byHandler packet handler argument result rest h _ ih =>
    exact .byHandler packet handler argument result _ h ih

namespace Connection

variable {η : Type} {table : HandlerTable η} {c d : Connection η} {e : ConnectionEvent}

/-- What is exchanged in a step of a connection's task. -/
def exchange? (c : Connection η) : ConnectionEvent → Option Exchange
  | .receives packet => if packet.size = 0 then none else some (.request packet)
  | .answers result => some (.result result)
  | .writes bytes => match c.phase with
    | .writing response => some (.response (response.extract 0 bytes))
    | _ => none
  | _ => none

/-- A step in which neither a handler nor a write fails.  A write that is cut short fails. -/
def isCalm (c : Connection η) : ConnectionEvent → Bool
  | .faults | .writeFails => false
  | .writes bytes => match c.phase with
    | .writing response => response.size ≤ bytes
    | _ => true
  | _ => true

end Connection

/-- Whether the task of a connection has set its token. -/
def ConnectionPhase.isClosed {η : Type} : ConnectionPhase η → Bool
  | .untracking | .notifying | .ended => true
  | _ => false

/-- What a connection has exchanged by the time its task stands at a phase. -/
def Follows {η : Type} (table : HandlerTable η) (xs : List Exchange) : ConnectionPhase η → Prop
  | .created => xs = []
  | .handling _ _ => ∀ result, Answered table
    (xs ++ [.result result, .response (Text.encode (Response.ofResult result).text)])
  | .writing response => Answered table (xs ++ [.response response])
  | .notifying | .ended => ∃ ys, Answered table ys ∧ xs = ys ++ [.left]
  | .faulted => False
  | _ => Answered table xs

section Follows

variable {η : Type} {table : HandlerTable η} {c d : Connection η} {e : ConnectionEvent}
  {xs : List Exchange}

/-- A packet is a request or the end of the requests. -/
theorem follows_phaseAfter (h : Answered table xs) (packet : ByteArray) :
    Follows table (xs ++ (c.exchange? (.receives packet)).toList)
      (Connection.phaseAfter table packet) := by
  show Follows table (xs ++ (if packet.size = 0 then none else some (.request packet)).toList) _
  unfold Connection.phaseAfter
  by_cases hz : packet.size = 0
  · rw [if_pos (beq_iff_eq.mpr hz), if_pos hz, Option.toList_none, List.append_nil]
    exact h
  · rw [if_neg (fun hb => hz (beq_iff_eq.mp hb)), if_neg hz, Option.toList_some]
    cases hd : Request.dispatch table packet with
    | respond response =>
      show Answered table (xs ++ [.request packet] ++ [.response (Text.encode response.text)])
      rw [List.append_assoc]
      exact h.append (.onTheSpot packet response [] hd .none)
    | call handler argument =>
      intro result
      rw [List.append_assoc]
      exact h.append (.byHandler packet handler argument result [] hd .none)

/-- A calm step of a task keeps its exchanges in line with its phase, and only the end of the task
sets its token. -/
theorem Connection.Step.follows (hstep : c.Step table e d) (hcalm : c.isCalm e = true)
    (hopen : c.cancelled = true → c.phase.isClosed = true) (h : Follows table xs c.phase) :
    Follows table (xs ++ (c.exchange? e).toList) d.phase ∧
      (d.cancelled = true → d.phase.isClosed = true) := by
  -- Nobody but its own task sets a token, so a task that is not at its end can count on it.
  have hfalse {p : ConnectionPhase η} (hp : c.phase = p) (hc : p.isClosed = false) :
      c.cancelled = true → False := by
    intro hcan
    have := hopen hcan
    rw [hp, hc] at this
    cases this
  cases hstep with
  | tests hp | polls hp =>
    refine ⟨?_, fun hcan => (hfalse hp rfl hcan).elim⟩
    rw [hp] at h
    show Follows table (xs ++ []) (if _ then _ else _)
    rw [List.append_nil]
    split <;> exact h
  | receives packet hp =>
    refine ⟨?_, fun hcan => (hfalse hp rfl hcan).elim⟩
    rw [hp] at h
    exact follows_phaseAfter h packet
  | receiveFails hp | receiveWaits hp | flags hp | shuts hp =>
    refine ⟨?_, fun hcan => (hfalse hp rfl hcan).elim⟩
    rw [hp] at h
    show Answered table (xs ++ [])
    rw [List.append_nil]
    exact h
  | answers handler argument result hp =>
    refine ⟨?_, fun hcan => (hfalse hp rfl hcan).elim⟩
    rw [hp] at h
    show Answered table (xs ++ [.result result] ++ [.response _])
    rw [List.append_assoc]
    exact h result
  | faults => cases hcalm
  | writeFails => cases hcalm
  | writeGivesUp response hp hcan => exact (hfalse hp rfl hcan).elim
  | writes response bytes hp =>
    refine ⟨?_, fun hcan => (hfalse hp rfl hcan).elim⟩
    rw [hp] at h
    rw [isCalm, hp] at hcalm
    have hall : response.size ≤ bytes := of_decide_eq_true hcalm
    rw [exchange?, hp]
    dsimp only
    rw [if_neg (Nat.not_lt.mpr hall), extract_of_size_le hall]
    exact h
  | cancels hp =>
    refine ⟨?_, fun _ => rfl⟩
    rw [hp] at h
    show Answered table (xs ++ [])
    rw [List.append_nil]
    exact h

end Follows

/-! ## Histories -/

namespace Server

variable {η : Type} {s t : Server η} {table : HandlerTable η}

/-- A step in which neither a handler nor a write fails and no forced stop begins. -/
def isCalm (s : Server η) : ServerEvent → Bool
  | .connection id e => (s.connections.get? id).all (·.isCalm e)
  | .beginStop force _ => !force
  | _ => true

/-- What is exchanged in a step, and by which connection. -/
def exchange? (s : Server η) : ServerEvent → Option (ConnectionId × Exchange)
  | .connection id e => (s.connections.get? id).bind fun c => (c.exchange? e).map (id, ·)
  | .untracks id => some (id, .left)
  | _ => none

/-- The servers that a new server becomes by calm steps, each with what was exchanged. -/
inductive History (table : HandlerTable η) : Server η → List (ConnectionId × Exchange) → Prop
  | new (listener : Listener) : History table { listener, handlers := table } []
  | step (s t : Server η) (log : List (ConnectionId × Exchange)) (e : ServerEvent)
      (h : History table s log) (hc : s.isCalm e = true) (ht : s.step? e = some t) :
    History table t (log ++ (s.exchange? e).toList)

/-- What one connection has exchanged. -/
def transcript (log : List (ConnectionId × Exchange)) (id : ConnectionId) : List Exchange :=
  log.filterMap fun x => if x.1 = id then some x.2 else none

theorem transcript_append (xs ys : List (ConnectionId × Exchange)) (id : ConnectionId) :
    transcript (xs ++ ys) id = transcript xs id ++ transcript ys id :=
  List.filterMap_append

theorem transcript_self (x : Option Exchange) (id : ConnectionId) :
    transcript (x.map (id, ·)).toList id = x.toList := by
  cases x with
  | none => rfl
  | some x => simp [transcript]

theorem transcript_other (x : Option Exchange) {id i : ConnectionId} (h : id ≠ i) :
    transcript (x.map (id, ·)).toList i = [] := by
  cases x with
  | none => rfl
  | some x => simp [transcript, h]

theorem History.reachable {log : List (ConnectionId × Exchange)} (h : History table s log) :
    Reachable s := by
  induction h with
  | new listener => exact ⟨listener, table, .refl⟩
  | step s t log e _ _ ht ih => exact ih.trans (.single ⟨e, ht⟩)

/-- The server and the exchanges after a list of calm steps, if they can be made in that order. -/
def calmSteps? (s : Server η) (log : List (ConnectionId × Exchange)) :
    List ServerEvent → Option (Server η × List (ConnectionId × Exchange))
  | [] => some (s, log)
  | e :: es =>
    if s.isCalm e then (s.step? e).bind (·.calmSteps? (log ++ (s.exchange? e).toList) es)
    else none

theorem History.of_calmSteps? {es : List ServerEvent} {log log' : List (ConnectionId × Exchange)}
    (h : History table s log) (ht : s.calmSteps? log es = some (t, log')) :
    History table t log' := by
  induction es generalizing s log with
  | nil => cases ht; exact h
  | cons e es ih =>
    rw [calmSteps?] at ht
    split at ht
    · obtain ⟨u, hu, ht⟩ := Option.bind_eq_some_iff.mp ht
      exact ih (.step s u log e h ‹_› hu) ht
    · cases ht

/-! ### Graceful stops -/

/-- No stop is forced. -/
def Graceful (s : Server η) : Prop :=
  ∀ n stop, s.stops.get? n = some stop →
    stop.force = false ∧ ∀ id rest, stop.phase ≠ .cancelling id rest

theorem turnTo_ne_cancelling (force : Bool) (ids : List ConnectionId) (id : ConnectionId)
    (rest : List ConnectionId) : Stop.turnTo force ids ≠ .cancelling id rest := by
  cases ids <;> cases force <;> rintro ⟨⟩

theorem Graceful.notifyAll (h : s.Graceful) : s.notifyAll.Graceful := by
  intro n stop hn
  rw [notifyAll_stops, Dictionary.get?_map, Option.map_eq_some_iff] at hn
  obtain ⟨stop₀, h0, rfl⟩ := hn
  obtain ⟨hf, hc⟩ := h n stop₀ h0
  unfold Stop.notify
  split
  · exact ⟨hf, fun _ _ h => by cases h⟩
  · exact ⟨hf, fun _ _ h => by cases h⟩
  · exact ⟨hf, hc⟩

theorem Graceful.insert (h : s.Graceful) {n : Nat} {stop : Stop}
    (ht : t.stops = s.stops.insert n stop) (hf : stop.force = false)
    (hc : ∀ id rest, stop.phase ≠ .cancelling id rest) : t.Graceful := by
  intro m stop' hm
  rw [ht, Dictionary.get?_insert] at hm
  split at hm
  · exact Option.some.inj hm ▸ ⟨hf, hc⟩
  · exact h m stop' hm

theorem StopStep.graceful {n : Nat} {stop : Stop} {e : StopEvent} (h : s.Graceful)
    (hs : s.stops.get? n = some stop) (hstep : StopStep s n stop e t) : t.Graceful := by
  obtain ⟨hf, hc⟩ := h n stop hs
  have hnoting (outcome : Except IoError Unit) : (stop.noting outcome).force = false := by
    cases outcome <;> exact hf
  cases hstep with
  | notifies => exact h.notifyAll.insert rfl hf fun _ _ h => by cases h
  | closes => exact h.insert rfl (hnoting _) fun _ _ h => by cases h
  | lists => exact h.insert rfl hf (turnTo_ne_cancelling _ _)
  | shuts id rest outcome =>
    refine h.insert rfl (hnoting outcome) ?_
    rw [hf]
    exact turnTo_ne_cancelling false rest
  | cancels id rest hp => exact absurd hp (hc id rest)
  | _ => exact h.insert rfl hf fun _ _ h => by cases h

theorem Step.graceful {e : ServerEvent} (h : s.Graceful) (hcalm : s.isCalm e = true)
    (hstep : Step s e t) :
    t.Graceful := by
  cases hstep with
  | serve _ _ _ _ _ hstep =>
    cases hstep with
    | notifies => exact h.notifyAll
    | _ => exact h
  | announces id c => exact h.notifyAll
  | beginStop force timeout =>
    exact h.insert rfl (by simpa [isCalm] using hcalm) fun _ _ h => by cases h
  | stop n stop _ _ hs hstep => exact hstep.graceful h hs
  | _ => exact h

/-! ### Every step keeps the exchanges in line -/

/-- What a connection has exchanged is in line with its phase, and only the end of its task has
set its token.  A connection that does not exist has exchanged nothing. -/
def Accounted (table : HandlerTable η) (xs : List Exchange) : Option (Connection η) → Prop
  | none => xs = []
  | some c => Follows table xs c.phase ∧ (c.cancelled = true → c.phase.isClosed = true)

/-- What a calm history keeps. -/
structure Faithful (table : HandlerTable η) (s : Server η) (log : List (ConnectionId × Exchange)) :
    Prop where
  handlers : s.handlers = table
  graceful : s.Graceful
  accounted : ∀ id, Accounted table (transcript log id) (s.connections.get? id)

theorem accounted_map {xs : List Exchange} {o : Option (Connection η)}
    {f : Connection η → Connection η} (h : Accounted table xs o)
    (hf : ∀ c, (f c).phase = c.phase ∧ (f c).cancelled = c.cancelled) :
    Accounted table xs (o.map f) := by
  cases o with
  | none => exact h
  | some c =>
    obtain ⟨hp, hc⟩ := hf c
    show Follows table xs (f c).phase ∧ ((f c).cancelled = true → (f c).phase.isClosed = true)
    rw [hp, hc]
    exact h

theorem accounted_modify {xs : List Exchange} {a : Dictionary ConnectionId (Connection η)}
    {id i : ConnectionId} {f : Connection η → Connection η}
    (h : Accounted table xs (a.get? i))
    (hf : ∀ c, (f c).phase = c.phase ∧ (f c).cancelled = c.cancelled) :
    Accounted table xs ((a.modify id f).get? i) := by
  rw [Dictionary.get?_modify]
  split
  · exact accounted_map h hf
  · exact h

theorem ServeStep.accounted {loop : Nat} {p : ServePhase} {e : ServeEvent} (ht : Tracked s)
    (hp : s.serves.get? loop = some p) (hstep : ServeStep s loop p e t) {xs : List Exchange}
    {i : ConnectionId} (h : Accounted table xs (s.connections.get? i)) :
    Accounted table xs (t.connections.get? i) := by
  cases hstep with
  | tracks stream =>
    rw [setServe_connections, Dictionary.get?_insert]
    split
    · rename_i hi
      cases hc : s.connections.get? i with
      | none =>
        rw [hc] at h
        exact ⟨h, (by rintro ⟨⟩)⟩
      | some c =>
        exact absurd (hi ▸ ht.numbered i _ (phase?_of_get? hc)) (Nat.not_succ_le_self _)
    · exact h
  | spawns id =>
    rw [setServe_connections, Dictionary.get?_modify]
    split
    · rename_i hi
      obtain ⟨c, hc, hcreated⟩ := Option.map_eq_some_iff.mp (ht.created loop id hp)
      rw [← hi, hc] at h ⊢
      obtain ⟨hx, hcan⟩ := h
      rw [hcreated] at hx hcan
      exact ⟨hx ▸ .none, fun hb => (by cases hcan hb)⟩
    · exact h
  | _ => exact h

theorem StopStep.accounted {n : Nat} {stop : Stop} {e : StopEvent} (hg : s.Graceful)
    (hs : s.stops.get? n = some stop) (hstep : StopStep s n stop e t) {xs : List Exchange}
    {i : ConnectionId} (h : Accounted table xs (s.connections.get? i)) :
    Accounted table xs (t.connections.get? i) := by
  cases hstep with
  | flags id => exact accounted_modify h fun _ => ⟨rfl, rfl⟩
  | cancels id rest hp => exact absurd hp ((hg n stop hs).2 id rest)
  | _ => exact h

theorem accounted_insert {a : Dictionary ConnectionId (Connection η)}
    {log : List (ConnectionId × Exchange)} (h : ∀ i, Accounted table (transcript log i) (a.get? i))
    {id : ConnectionId} {d : Connection η} {x : Option Exchange}
    (hd : Accounted table (transcript log id ++ x.toList) (some d)) (i : ConnectionId) :
    Accounted table (transcript (log ++ (x.map (id, ·)).toList) i) ((a.insert id d).get? i) := by
  rw [Dictionary.get?_insert, transcript_append]
  split
  · rename_i hi
    rw [← hi, transcript_self]
    exact hd
  · rename_i hi
    rw [transcript_other x hi, List.append_nil]
    exact h i

theorem Step.handlers {e : ServerEvent} (hstep : Step s e t) : t.handlers = s.handlers := by
  cases hstep with
  | serve _ _ _ _ _ hstep => cases hstep <;> rfl
  | stop _ _ _ _ _ hstep => cases hstep <;> rfl
  | _ => rfl

theorem Faithful.step {log : List (ConnectionId × Exchange)} {e : ServerEvent}
    (ht : Tracked s) (h : Faithful table s log) (hcalm : s.isCalm e = true) (hstep : Step s e t) :
    Faithful table t (log ++ (s.exchange? e).toList) := by
  have hsilent {u : Server η} (hu : ∀ i xs, Accounted table xs (s.connections.get? i) →
      Accounted table xs (u.connections.get? i)) :
      ∀ i, Accounted table (transcript (log ++ []) i) (u.connections.get? i) := by
    intro i
    rw [List.append_nil]
    exact hu i _ (h.accounted i)
  refine ⟨hstep.handlers.trans h.handlers, hstep.graceful h.graceful hcalm, ?_⟩
  cases hstep with
  | beginServe => exact hsilent fun _ _ h => h
  | beginStop => exact hsilent fun _ _ h => h
  | serve _ _ _ _ hp hstep => exact hsilent fun _ _ h => hstep.accounted ht hp h
  | stop _ _ _ _ hs hstep => exact hsilent fun _ _ ha => hstep.accounted h.graceful hs ha
  | connection id c d e hc hstep =>
    have hi := h.accounted id
    rw [hc] at hi
    rw [isCalm, hc] at hcalm
    rw [h.handlers] at hstep
    rw [exchange?, hc]
    exact accounted_insert h.accounted (hstep.follows hcalm hi.2 hi.1)
  | untracks id c hc hp =>
    have hi := h.accounted id
    rw [hc] at hi
    obtain ⟨hx, _⟩ := hi
    rw [hp] at hx
    exact accounted_insert (x := some .left) h.accounted ⟨⟨_, hx, rfl⟩, fun _ => rfl⟩
  | announces id c hc hp =>
    have hi := h.accounted id
    rw [hc] at hi
    obtain ⟨hx, _⟩ := hi
    rw [hp] at hx
    refine accounted_insert (x := none) h.accounted ⟨?_, fun _ => rfl⟩
    rw [Option.toList_none, List.append_nil]
    exact hx

/-- **In a calm history the exchanges of every connection are in line with its phase.** -/
theorem History.faithful {log : List (ConnectionId × Exchange)} (h : History table s log) :
    Faithful table s log := by
  induction h with
  | new => exact ⟨rfl, fun _ _ h => (by cases h), fun _ => rfl⟩
  | step s t log e h hcalm ht ih =>
    exact ih.step h.reachable.tracked hcalm (step?_eq_some_iff.mp ht)

/-- **A graceful stop loses no response.**  In a history in which no handler and no write fails
and no forced stop begins, when a stop that waits for the connections sees none, every connection
that has exchanged anything has left the tracker, and before that it had written the whole
response to each request packet that it received, once and before the next packet. -/
theorem drain_loses_no_response {log : List (ConnectionId × Exchange)} (h : History table s log)
    {n : Nat} {stop stop' : Stop} {w : Wait} {limit : Instant} {e : Wait.Event}
    (hs : s.stops.get? n = some stop) (hp : stop.phase = .draining w limit)
    (ht : s.step? (.stop n (.waits e)) = some t) (hs' : t.stops.get? n = some stop')
    (hp' : stop'.phase = .finished) :
    ∀ id x, (id, x) ∈ log → ∃ xs, Answered table xs ∧ transcript log id = xs ++ [.left] := by
  have hempty : s.tracker.live = [] := by
    cases step?_eq_some_iff.mp ht with
    | stop _ stop₀ _ _ hs₀ hstep =>
      obtain rfl := Option.some.inj (hs.symm.trans hs₀)
      cases hstep with
      | seesNoConnection _ _ _ _ hw => exact List.isEmpty_iff.mp (Wait.eq_true_of_step? hw)
      | waitsForConnections w w' limit e _ hw =>
        rw [advanceStop_stops, Dictionary.get?_insert, if_pos rfl] at hs'
        rw [← Option.some.inj hs'] at hp'
        cases hp'
      | waitsForLoops _ _ _ hp₀ => rw [hp] at hp₀; cases hp₀
      | seesNoLoop _ _ hp₀ => rw [hp] at hp₀; cases hp₀
  intro id x hx
  -- The tracker holds all whose task has not left it, so every task has.
  have ha := h.faithful.accounted id
  cases hc : s.connections.get? id with
  | none =>
    rw [hc] at ha
    have hmem : x ∈ transcript log id := List.mem_filterMap.mpr ⟨_, hx, if_pos rfl⟩
    rw [ha] at hmem
    cases hmem
  | some c =>
    rw [hc] at ha
    have hleft : c.phase.hasLeft = true := by
      cases hl : c.phase.hasLeft with
      | true => rfl
      | false =>
        have hlive := (h.reachable.tracked.live id).mpr ⟨_, phase?_of_get? hc, hl⟩
        rw [hempty] at hlive
        cases hlive
    obtain ⟨hf, _⟩ := ha
    cases hph : c.phase <;> rw [hph] at hf hleft <;> first | exact hf | cases hleft

/-- A stop that begins while a handler is at work, after a request with an unknown verb. -/
theorem drain_loses_no_response_at_work :
    ∃ (s t : Server Unit) (log : List (ConnectionId × Exchange)) (packet : ByteArray),
      s.step? (.stop 0 (.waits .checks)) = some t ∧ (1, .request packet) ∈ log ∧
      ∃ xs, Answered ((∅ : HandlerTable Unit).insert "PING" ()) xs ∧
        transcript log 1 = xs ++ [.left] := by
  let new : Server Unit :=
    { listener := ⟨0, some "/run/fsidd.sock"⟩
      handlers := (∅ : HandlerTable Unit).insert "PING" () }
  let events : List ServerEvent :=
    [.beginServe, .serve 0 .enters, .serve 0 .marks, .serve 0 .polls, .serve 0 (.accepts 5),
      .serve 0 .tracks, .serve 0 .spawns, .connection 1 .tests, .connection 1 .polls,
      .connection 1 (.receives ⟨#[80]⟩), .connection 1 (.writes 21), .connection 1 .tests,
      .connection 1 .polls, .connection 1 (.receives ⟨#[112, 105, 110, 103, 32, 120]⟩),
      .beginStop false .zero, .stop 0 .marks, .stop 0 .notifies, .stop 0 .requests,
      .stop 0 (.closes .removed), .serve 0 .polls, .serve 0 .leaves, .serve 0 .notifies,
      .stop 0 (.waits .registers), .stop 0 (.waits .checks), .stop 0 .lists, .stop 0 .flags,
      .stop 0 (.shuts (.ok ())), .stop 0 (.lingers 0), .connection 1 (.answers (.ok "x")),
      .connection 1 (.writes 3), .connection 1 .tests, .connection 1 .flags,
      .connection 1 .shuts, .connection 1 .cancels, .untracks 1, .announces 1,
      .stop 0 (.waits .registers)]
  have hrun : (new.calmSteps? [] events).any (fun x =>
      (x.1.stops.get? 0).any (fun stop => decide (stop.phase = .draining (.checking false) 0)) &&
      (x.1.step? (.stop 0 (.waits .checks))).any (fun t =>
        (t.stops.get? 0).any fun stop => decide (stop.phase = .finished)) &&
      x.2.any fun y => y.1 == 1 && y.2.isRequest) = true := by
    decide +kernel
  simp only [Option.any_eq_true, Bool.and_eq_true, decide_eq_true_eq, List.any_eq_true,
    beq_iff_eq] at hrun
  obtain ⟨⟨s, log⟩, hs, ⟨⟨stop, hstop, hp⟩, t, ht, stop', hstop', hp'⟩, ⟨id, x⟩, hx, hid, hreq⟩ :=
    hrun
  obtain rfl : id = 1 := hid
  have h : History _ s log := .of_calmSteps? (.new _) hs
  cases x with
  | request packet =>
    exact ⟨s, t, log, packet, ht, hx, drain_loses_no_response h hstop hp ht hstop' hp' 1 _ hx⟩
  | _ => cases hreq

end Server

end FsidRegistry
