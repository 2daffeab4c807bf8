import FsidRegistry.Proofs.Cache.Late
import FsidRegistry.Proofs.Service.World

/-!
# Calls in flight

Requests of several clients are at work at the same time, each in the task of its connection.  A command
that begins after something has happened is answered in line with what was given by then, whoever else
asks meanwhile.

* `Service.Uncancelled`: while nobody stops a service, no request is cancelled.
* `Service.Carries`, `Service.Task.carries`: what a step does to the call of a connection.
* `World.Attends`, `World.Attends.next`: where the calls can stand that a connection has begun since a
  list of paths was the one of now.
* `World.Created`: a pair that was given, or that a request to create it has found.
* `World.Attends.answers`: what a command comes to that begins late.
-/

namespace FsidRegistry

namespace Service

variable {s t : Service} {id i : ConnectionId} {c : Connection Handler} {path : String} {base : Nat}
  {phase : ServePhase} {queue : List SocketId} {old paths after : Ledger}

/-! ## Tokens -/

/-- Only the end of its task has set the token of a connection. -/
def Uncancelled (s : Service) : Prop :=
  ∀ id c, s.server.connections.get? id = some c → c.cancelled = true → c.phase.isClosed = true

theorem Uncancelled.of_open (h : s.Uncancelled) (hc : s.server.connections.get? id = some c)
    (hopen : c.phase.isClosed = false) : c.cancelled = false := by
  cases hcancelled : c.cancelled with
  | false => rfl
  | true =>
    have hclosed := h id c hc hcancelled
    rw [hopen] at hclosed
    cases hclosed

/-- A connection is replaced. -/
theorem Uncancelled.withConnection (h : s.Uncancelled) {d : Connection Handler}
    (hd : d.cancelled = true → d.phase.isClosed = true) (hserver : t.server.connections =
      s.server.connections.insert id d) : t.Uncancelled := by
  intro i x hx
  rw [hserver, Dictionary.get?_insert] at hx
  split at hx
  · cases hx
    exact hd
  · exact h i x hx

/-- The token of a connection is set by the last step of its loop. -/
theorem isClosed_of_step {table : HandlerTable Handler} {d : Connection Handler}
    {e : ConnectionEvent} (hstep : c.Step table e d)
    (h : c.cancelled = true → c.phase.isClosed = true) :
    d.cancelled = true → d.phase.isClosed = true := by
  intro hd
  cases hstep with
  | cancels => rfl
  | tests hp | polls hp | receives _ hp | receiveFails hp | receiveWaits hp | answers _ _ _ hp
  | faults _ _ hp | writes _ _ hp | writeFails _ hp | writeGivesUp _ hp | flags hp | shuts hp =>
    have hclosed := h hd
    rw [hp] at hclosed
    cases hclosed

theorem Uncancelled.task (h : s.Uncancelled) (hs : Sound s paths)
    (hc : s.server.connections.get? id = some c) (htask : Task s id c t) : t.Uncancelled := by
  have hmine := h id c hc
  cases htask with
  | goes e d host hstep => exact h.withConnection (isClosed_of_step hstep hmine) rfl
  | untracks => exact h.withConnection (fun _ => rfl) rfl
  | announces => exact h.withConnection (fun _ => rfl) rfl
  | begins => exact h
  | works command argument w w' backend at_ hphase hw hstep =>
    obtain ⟨-, -, rfl, -⟩ := hs.works hw hstep
    exact h.withConnection hmine rfl
  | finishes _ _ _ _ hphase | faults _ _ _ _ hphase =>
    have hfalse := h.of_open hc (by rw [hphase]; rfl)
    refine h.withConnection (fun hcancelled => ?_) rfl
    exact absurd (hfalse.symm.trans hcancelled) Bool.false_ne_true

/-- **While nobody stops a service, no request is cancelled.** -/
theorem Uncancelled.acts (h : s.Uncancelled) (hr : Running path base phase queue s)
    (hs : Sound s paths) (ha : Acts s t) : t.Uncancelled := by
  cases ha with
  | stops number stop t hstop =>
    have hmem := Dictionary.mem_entries_iff.mpr hstop
    rw [hr.stops] at hmem
    cases hmem
  | connects id c t hc hstep => exact h.task hs hc (hs.task hc hstep)
  | serves loop phase t hp hserves =>
    obtain ⟨e, hstep⟩ : ∃ e, s.server.Step (.serve loop e) t.server := by
      cases serves_of_serveStep? hp hserves with
      | goes e server hstep _ => exact ⟨e, .serve loop phase e server hp hstep⟩
      | takes stream host hphase =>
        subst hphase
        exact ⟨_, .serve loop .accepting _ _ hp (.accepts stream)⟩
      | fails errno _ hphase =>
        subst hphase
        exact ⟨_, .serve loop .accepting _ _ hp (.acceptFails _)⟩
      | turnsAway stream server _ _ hstep => exact ⟨_, .serve loop phase .tracks server hp hstep⟩
    intro i d hd
    cases hc : s.server.connections.get? i with
    | none =>
      rw [new_of_step hstep hd hc]
      rintro ⟨⟩
    | some c =>
      obtain ⟨d', hd', hmoves⟩ := hstep.moves hs.tracked hc
      obtain rfl := Option.some.inj (hd.symm.trans hd')
      cases hmoves with
      | starts _ hp =>
        intro hcancelled
        have hclosed := h i c hc hcancelled
        rw [hp] at hclosed
        cases hclosed
      | stays => exact h i _ hc

/-! ## The call of a connection -/

/-- What the task of a connection does to the call that it has at work. -/
inductive Carries (s t : Service) (id : ConnectionId) : Prop
  | begins (request : CacheRequest) (hw : s.workers.get? id = none)
      (h : t.workers.get? id = some { call := .begin s.policy request })
  | works (c : Connection Handler) (command : Command) (argument : String) (w w' : Worker)
      (at_ : Surroundings) (hc : s.server.connections.get? id = some c)
      (hphase : c.phase = .handling (.command command) argument) (hw : s.workers.get? id = some w)
      (h : t.workers.get? id = some w')
      (hstep : w.step? s.draw ⟨s.now, c.cancelled⟩ s.backend = some (w', t.backend, at_))
  | ends (d : Connection Handler) (hd : t.server.connections.get? id = some d)
      (hfree : ∀ handler argument, d.phase ≠ .handling handler argument)
      (h : t.workers.get? id = none)

/-- **A step of the task carries its call on**, begins it or ends it. -/
theorem Task.carries (htask : Task s id c t) (hc : s.server.connections.get? id = some c)
    {handler : Handler} {argument : String} (hphase : c.phase = .handling handler argument) :
    Carries s t id := by
  cases htask with
  | goes _ _ _ _ hfree => exact absurd hphase (hfree _ _)
  | untracks hp | announces hp =>
    rw [hp] at hphase
    cases hphase
  | begins command argument request hp hw =>
    exact .begins request hw ((Dictionary.get?_insert _ _ _ _).trans (if_pos rfl))
  | works command argument w w' backend at_ hp hw hstep =>
    exact .works c command argument w w' at_ hc hp hw
      ((Dictionary.get?_insert _ _ _ _).trans (if_pos rfl)) hstep
  | finishes | faults =>
    refine .ends _ ((withConnection_get? _ _ _ _).trans (if_pos rfl)) (by rintro _ _ ⟨⟩) ?_
    exact (Dictionary.get?_erase _ _ _).trans (if_pos rfl)

/-- No other step changes the call of a connection. -/
theorem Task.workers_eq_or_carries (htask : Task s i c t)
    (hc : s.server.connections.get? i = some c) (id : ConnectionId) :
    t.workers.get? id = s.workers.get? id ∨ Carries s t id := by
  have hcarries : ∀ {handler argument}, c.phase = .handling handler argument → Carries s t i :=
    htask.carries hc
  by_cases hi : i = id
  · subst hi
    cases htask with
    | goes | untracks | announces => exact .inl rfl
    | begins _ _ _ hphase | works _ _ _ _ _ _ hphase | finishes _ _ _ _ hphase
    | faults _ _ _ _ hphase => exact .inr (hcarries hphase)
  · cases htask with
    | goes | untracks | announces => exact .inl rfl
    | begins | works => exact .inl ((Dictionary.get?_insert _ _ _ _).trans (if_neg hi))
    | finishes | faults => exact .inl ((Dictionary.get?_erase _ _ _).trans (if_neg hi))

theorem Sound.workers_eq_or_carries (h : Sound s paths) (ha : Acts s t) (id : ConnectionId) :
    t.workers.get? id = s.workers.get? id ∨ Carries s t id := by
  obtain hq | ⟨i, c, hc, hstep⟩ := ha.quiet_or_connects
  · rw [hq.workers]
    exact .inl rfl
  · exact (h.task hc hstep).workers_eq_or_carries hc id

end Service

namespace World

variable {w u v : World} {path : String} {paths old after : Ledger} {pair : Pair} {id : ConnectionId}
  {t : Service} {command : Command} {argument : String} {request : CacheRequest} {r : Response}

/-- The calls that a connection has at work have begun since `old` was the list of paths. -/
structure Attends (path : String) (id : ConnectionId) (old : Ledger) (w : World) (paths : Ledger) :
    Prop where
  kept : Kept path w paths
  uncancelled : w.service.Uncancelled
  older : ∀ pair, Numbered old pair → Numbered paths pair
  late : ∀ worker, w.service.workers.get? id = some worker → worker.call.Late old paths

/-- Where the worker of such a call stands. -/
theorem Attends.stands (h : Attends path id old w paths) {worker : Worker}
    (hw : w.service.workers.get? id = some worker) :
    worker.Stands old paths Sendable w.service.backend := by
  obtain ⟨hsound, c, command, argument, -, -, hstart⟩ := h.kept.sound.workers id worker hw
  exact ⟨h.kept.sound.backend, hsound, Command.ne_allocate_of_start hstart, h.older,
    h.late worker hw⟩

/-- What is at work for a connection was so before a step, or has just begun, or was carried on by a
step that nobody has cancelled. -/
theorem Attends.worker_cases (h : Attends path id old w paths) (hn : Next w u) {worker : Worker}
    (hw : u.service.workers.get? id = some worker) :
    w.service.workers.get? id = some worker ∨
      (∃ request, worker = { call := .begin w.service.policy request }) ∨
      ∃ before at_, w.service.workers.get? id = some before ∧
        before.step? w.service.draw ⟨w.service.now, false⟩ w.service.backend =
          some (worker, u.service.backend, at_) := by
  cases hn with
  | connects | passes => exact .inl hw
  | acts t ha =>
    obtain hsame | hcarries := h.kept.sound.workers_eq_or_carries ha id
    · exact .inl (hsame.symm.trans hw)
    · cases hcarries with
      | begins request _ hbegun => exact .inr (.inl ⟨request, Option.some.inj (hw.symm.trans hbegun)⟩)
      | ends _ _ _ hnone => cases hw.symm.trans hnone
      | works c command argument before after at_ hc hphase hbefore hafter hstep =>
        obtain rfl := Option.some.inj (hw.symm.trans hafter)
        rw [h.uncancelled.of_open hc (by rw [hphase]; rfl)] at hstep
        exact .inr (.inr ⟨before, at_, hbefore, hstep⟩)

/-- **Whatever happens, such a call stays where a call can stand.** -/
theorem Attends.late_next (h : Attends path id old w paths) (hn : Next w u)
    (hgrown : paths <+: after) (hafter : u.service.backend.Holds after) {worker : Worker}
    (hw : u.service.workers.get? id = some worker) : worker.call.Late old after := by
  obtain hsame | ⟨request, rfl⟩ | ⟨before, at_, hbefore, hstep⟩ := h.worker_cases hn hw
  · exact (h.late worker hsame).mono hgrown hafter.length_le
  · exact Call.late_begin old after w.service.policy request
  · exact (h.stands hbefore).late_step rfl hstep hafter

theorem Attends.next (h : Attends path id old w paths) (hn : Next w u) :
    ∃ after, paths <+: after ∧ Attends path id old u after := by
  obtain ⟨after, hgrown, hkept⟩ := h.kept.next hn
  refine ⟨after, hgrown, hkept, ?_, fun pair hold => ?_,
    fun worker hw => h.late_next hn hgrown hkept.sound.backend hw⟩
  · cases hn with
    | acts t ha =>
      obtain ⟨base, phase, queue, hrunning⟩ := h.kept.running
      exact h.uncancelled.acts hrunning h.kept.sound ha
    | connects | passes => exact h.uncancelled
  · obtain ⟨more, rfl⟩ := hgrown
    exact (h.older pair hold).append more

theorem Attends.runs (h : Attends path id old w paths) (hr : Runs w u) :
    ∃ after, Attends path id old u after := by
  induction hr with
  | refl => exact ⟨paths, h⟩
  | tail _ hn ih =>
    obtain ⟨middle, hmiddle⟩ := ih
    obtain ⟨after, -, hafter⟩ := hmiddle.next hn
    exact ⟨after, hafter⟩

/-- In everything that is reached, the calls at work have begun since the list was empty. -/
theorem Reached.attends (h : Reached path w) (id : ConnectionId) :
    ∃ paths, Attends path id [] w paths := by
  obtain ⟨hpath, enabled, policy, draw, listener, host, bound, now, hf, hb, hruns⟩ := h
  obtain ⟨ho, hf⟩ := Listener.open_of_bind hpath hf hb
  have hkept : Kept path ⟨.fresh enabled policy draw listener bound now, fun _ => False⟩ [] :=
    kept_fresh ho hf
  refine Attends.runs ⟨hkept, ?_, fun _ hn => hn, ?_⟩ hruns
  · rw [Service.fresh_eq ho hf]
    rintro id c ⟨⟩
  · rw [Service.fresh_eq ho hf]
    rintro worker ⟨⟩

/-- A connection that has no call at work begins its next one with the list of now. -/
theorem Attends.anew (h : Attends path id old w paths) (hw : w.service.workers.get? id = none) :
    Attends path id paths w paths := by
  refine ⟨h.kept, h.uncancelled, fun _ hn => hn, fun worker hworker => ?_⟩
  rw [hw] at hworker
  cases hworker

/-! ## What was created -/

/-- The pair has been given to a client, or a request to create it has found it by now. -/
def Created (w : World) (pair : Pair) : Prop :=
  w.given pair ∨ Service.Finding w.service.workers pair

/-- What was created is what is on the list of paths. -/
theorem Kept.created_iff (h : Kept path w paths) : w.Created pair ↔ Numbered paths pair := by
  constructor
  · rintro (hgiven | ⟨id, worker, hw, hp, -⟩)
    · exact h.given pair hgiven
    · exact ((h.sound.workers id worker hw).1.call.found pair hp).1
  · exact h.found pair

/-! ## Answers -/

/-- What a command is answered with that has begun since `old` was the list of paths. -/
inductive Answers (old : Ledger) (w : World) (command : Command) (request : CacheRequest) :
    Response → Prop
  | found (pair : Pair) (value : String) (hc : w.Created pair) (hfor : request.IsFor pair)
      (hv : command.finish (.ok (some pair)) = .ok value) :
    Answers old w command request (.ok value)
  | missed (hm : request.mayMiss = true) (hnew : request.NewTo old) :
    Answers old w command request (.ok "")
  | lostRace (path : String) (fsid : Fsid) (hr : request = .fsidOrAllocate path)
      (hnew : request.NewTo old) (hc : w.Created (fsid, path)) :
    Answers old w command request (.lostRace path)
  | exhausted (path : String) (hr : request = .fsidOrAllocate path) (hnew : request.NewTo old)
      (hfull : ∃ m, w.service.backend.store.store = .memory m ∧ m.size = issuable) :
    Answers old w command request (.err "fsid space exhausted")

/-- **What a command comes to that begins late**, whoever else asks meanwhile. -/
theorem Attends.answers (h : Attends path id old w paths) (ha : w.service.Acts t)
    (hr : w.service.Responds t id command argument r) (hs : command.start argument = .ok request) :
    Answers old w command request r := by
  obtain hq | ⟨i, c, hc, hstep⟩ := ha.quiet_or_connects
  · exact absurd hr (hq.not_responds h.kept.sound.tracked)
  obtain ⟨rfl, hphase, result, rfl, houtcome⟩ :=
    (h.kept.sound.task hc hstep).responds h.kept.sound.tracked hc hr
  cases houtcome with
  | atOnce result hw hstart =>
    rw [hs] at hstart
    cases hstart
  | called worker result hw hp =>
    obtain ⟨hsound, hstart⟩ := h.kept.sound.worker_of_handling hc hphase hw
    obtain rfl : request = worker.call.request := Except.ok.inj (hs.symm.trans hstart)
    obtain ⟨m, hstore, hholds⟩ := h.kept.sound.backend.store
    obtain ⟨pair, rfl⟩ | ⟨hm, hnew, rfl⟩ | ⟨path, hpath, hnew, ⟨hmem, rfl⟩ | ⟨hfull, rfl⟩⟩ :=
      (h.late worker hw).ends hp
    · obtain ⟨hn, hfor⟩ := hsound.call.found pair (by rw [hp]; rfl)
      obtain ⟨value, hv, -⟩ := command.finish_of_found hn h.kept.sound.backend.length_le
        (h.kept.sound.sendable _ hn.mem).2
      rw [hv]
      exact .found pair value (h.kept.created_iff.mpr hn) hfor hv
    · exact .missed hm hnew
    · obtain ⟨fsid, -, hn⟩ := hholds.fsidOf_of_mem hmem
      exact .lostRace path fsid hpath hnew (h.kept.created_iff.mpr hn)
    · exact .exhausted path hpath hnew ⟨m, hstore, hholds.size.trans hfull⟩

/-- What was on the list is found. -/
theorem Attends.recalls (h : Attends path id old w paths) (ha : Answers old w command request r)
    (hn : Numbered old pair) (hfor : request.IsFor pair) {value : String}
    (hv : command.finish (.ok (some pair)) = .ok value) : r = .ok value := by
  cases ha with
  | found pair' value' hc hfor' hv' =>
    obtain rfl : pair = pair' := CacheRequest.eq_of_isFor h.kept.sound.backend.nodup
      (h.older pair hn) (h.kept.created_iff.mp hc) hfor hfor'
    rw [hv] at hv'
    cases hv'
    rfl
  | missed _ hnew | lostRace _ _ _ hnew | exhausted _ _ hnew => exact absurd hn (hnew pair hfor)

end World

end FsidRegistry
