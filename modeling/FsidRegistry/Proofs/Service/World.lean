import FsidRegistry.Proofs.Number.Decimal
import FsidRegistry.Proofs.Service.Fidelity
import FsidRegistry.Proofs.Service.Running

/-!
# A service and what it has given

A service with the four commands runs, clients connect and do what they like, and the clock goes on,
in any order.  What the service has given to its clients is remembered beside it: the pairs of a
path and the fsid in a response to a request to create it.

* `World`, `World.Next`: a service with what it has given, and what can happen to it.
* `World.Kept`, `World.Kept.next`: the list of paths holds what was given, and nothing else but what
  a call is about to give.
* `Service.Callable`: a service at rest that a client can call.
* `World.Kept.numbered_iff`: at rest the list of paths is what was given.
* `World.Kept.ready`: at rest a service is ready, as after its clients came one by one.
-/

namespace FsidRegistry

namespace Service

variable {s t : Service} {id : ConnectionId} {c : Connection Handler} {a : SocketId}
  {path : String} {clients : List SocketId} {paths after : Ledger} {policy : Retry.Policy}
  {pair : Pair}

/-! ## What a step gives -/

/-- The task of a connection ends a command and is about to write its response. -/
def Responds (s t : Service) (id : ConnectionId) (command : Command) (argument : String)
    (r : Response) : Prop :=
  ∃ c d, s.server.connections.get? id = some c ∧
    c.phase = .handling (.command command) argument ∧
    t.server.connections.get? id = some d ∧ d.phase = .writing (Text.encode r.text)

/-- A request to create the fsid of a path is answered with the pair. -/
def Gives (s t : Service) (pair : Pair) : Prop :=
  ∃ id, Responds s t id .getOrCreateFsid pair.2 (.ok pair.1.text)

theorem withConnection_get? (server : Server Handler) (id i : ConnectionId)
    (d : Connection Handler) : (withConnection server id d).connections.get? i =
      if id = i then some d else server.connections.get? i := Dictionary.get?_insert _ _ _ _

/-- A step that is quiet answers nothing. -/
theorem Quiet.not_responds (hq : Quiet s t) (ht : s.server.Tracked) {command : Command}
    {argument : String} {r : Response} : ¬ Responds s t id command argument r := by
  rintro ⟨c, d, hc, hphase, hd, hwritten⟩
  obtain ⟨d', hd', hphase'⟩ := hq.handling ht hc hphase
  obtain rfl := Option.some.inj (hd.symm.trans hd')
  rw [hphase'] at hwritten
  cases hwritten

/-- A response is what a command comes to whose task makes the step. -/
theorem Task.responds (htask : Task s id c t) (ht : s.server.Tracked)
    (hc : s.server.connections.get? id = some c) {i : ConnectionId} {command : Command}
    {argument : String} {r : Response} (hr : Responds s t i command argument r) :
    i = id ∧ c.phase = .handling (.command command) argument ∧
      ∃ result, r = .ofResult result ∧ Outcome s id command argument result := by
  have hanswers := hr
  obtain ⟨x, y, hx, hphase, hy, hwritten⟩ := hr
  -- What replaces a connection leaves the others as they are.
  have hsame : ∀ {d : Connection Handler}, (withConnection s.server id d).connections.get? i =
      some y → i = id ∧ d = y := by
    intro d hd
    rw [withConnection_get?] at hd
    split at hd
    · rename_i hi
      exact ⟨hi.symm, Option.some.inj hd⟩
    · obtain rfl := Option.some.inj (hx.symm.trans hd)
      rw [hphase] at hwritten
      cases hwritten
  have hmine : i = id → x = c := by
    rintro rfl
    exact Option.some.inj (hx.symm.trans hc)
  cases htask with
  | goes e d host hstep hfree =>
    obtain ⟨rfl, rfl⟩ := hsame hy
    obtain rfl := hmine rfl
    exact absurd hphase (hfree _ _)
  | untracks hp => exact absurd hanswers ((quiet_of_untracks hc hp).not_responds ht)
  | announces hp => exact absurd hanswers ((quiet_of_announces hc hp).not_responds ht)
  | begins =>
    obtain rfl := Option.some.inj (hx.symm.trans hy)
    rw [hphase] at hwritten
    cases hwritten
  | works command argument w w' backend at_ hp =>
    obtain ⟨rfl, rfl⟩ := hsame hy
    rw [hp] at hwritten
    cases hwritten
  | faults =>
    obtain ⟨rfl, rfl⟩ := hsame hy
    cases hwritten
  | finishes command argument result finished hp hresult =>
    obtain ⟨rfl, rfl⟩ := hsame hy
    obtain rfl := hmine rfl
    rw [hp] at hphase
    cases hphase
    injection hwritten with hbytes
    exact ⟨rfl, hp, result, (Response.eq_of_encode hbytes).symm, hresult⟩

/-- Only the end of a command gives something. -/
theorem Task.gives (htask : Task s id c t) (ht : s.server.Tracked)
    (hc : s.server.connections.get? id = some c) (hg : Gives s t pair) :
    c.phase = .handling (.command .getOrCreateFsid) pair.2 ∧
      Outcome s id .getOrCreateFsid pair.2 (.ok pair.1.text) := by
  obtain ⟨i, hr⟩ := hg
  obtain ⟨-, hphase, result, hresult, houtcome⟩ := htask.responds ht hc hr
  cases result with
  | error e => cases hresult
  | ok value =>
    cases hresult
    exact ⟨hphase, houtcome⟩

/-- A command that creates the fsid of a path calls the cache for no other path. -/
theorem request_of_start {argument : String} {request : CacheRequest}
    (h : Command.getOrCreateFsid.start argument = .ok request) :
    request = .fsidOrAllocate argument := by
  rw [Command.start] at h
  split at h <;> cases h
  rfl

/-- Only the command that creates the fsid of a path makes the call that creates it. -/
theorem command_of_start {command : Command} {argument path : String}
    (h : command.start argument = .ok (.fsidOrAllocate path)) :
    command = .getOrCreateFsid ∧ argument = path := by
  cases command with
  | getFsid | getPath =>
    rw [Command.start] at h
    split at h <;> cases h
  | getOrCreateFsid =>
    cases request_of_start h
    exact ⟨rfl, rfl⟩
  | version => cases h

/-- A call that has found a pair ends with it. -/
theorem result_of_pair? {phase : CallPhase} {result : Except Error (Option Pair)}
    (h : phase = .finished result) (hp : phase.pair? = some pair) : result = .ok (some pair) := by
  subst h
  cases result with
  | error e => cases hp
  | ok found =>
    cases found with
    | none => cases hp
    | some p => exact congrArg _ hp

/-- A worker is at work on the request of its own connection. -/
theorem Sound.worker_of_handling (h : Sound s paths)
    (hc : s.server.connections.get? id = some c) {command : Command} {argument : String}
    (hphase : c.phase = .handling (.command command) argument) {w : Worker}
    (hw : s.workers.get? id = some w) :
    w.Sound paths Sendable ∧ command.start argument = .ok w.call.request := by
  obtain ⟨hsound, d, command', argument', hd, hp, hstart⟩ := h.workers id w hw
  obtain rfl := Option.some.inj (hc.symm.trans hd)
  rw [hphase] at hp
  cases hp
  exact ⟨hsound, hstart⟩

/-- **What is given is on the list.** -/
theorem Sound.numbered_of_outcome (h : Sound s paths)
    (hc : s.server.connections.get? id = some c)
    (hphase : c.phase = .handling (.command .getOrCreateFsid) pair.2)
    (ho : Outcome s id .getOrCreateFsid pair.2 (.ok pair.1.text)) : Numbered paths pair := by
  generalize hresult : (Except.ok pair.1.text : Except Error String) = result at ho
  cases ho with
  | atOnce result hw hs =>
    rw [← hresult, Command.start] at hs
    split at hs <;> cases hs
  | called w result hw hp =>
    obtain ⟨hsound, hstart⟩ := h.worker_of_handling hc hphase hw
    cases result with
    | error e => cases hresult
    | ok found =>
      cases found with
      | none => exact absurd (Except.ok.inj hresult) pair.1.text_ne_empty
      | some p =>
        obtain ⟨hn, hfor⟩ := hsound.call.found p (by rw [hp]; rfl)
        rw [request_of_start hstart] at hfor
        have hfsid : pair.1 = p.1 := Fsid.text_inj (Except.ok.inj hresult)
        have hpath : p.2 = pair.2 := hfor
        have hpair : pair = p := Prod.ext hfsid hpath.symm
        rw [hpair]
        exact hn

/-- **A pair that a call has found stays found until it is given.** -/
theorem Task.finding (htask : Task s id c t) (h : Sound s paths)
    (hc : s.server.connections.get? id = some c) (hf : Finding s.workers pair) :
    Finding t.workers pair ∨ Gives s t pair := by
  obtain ⟨i, w, hw, hp, hr⟩ := hf
  cases htask with
  | goes | untracks | announces => exact .inl ⟨i, w, hw, hp, hr⟩
  | begins command argument request hphase hnone =>
    refine .inl ⟨i, w, ?_, hp, hr⟩
    rw [Dictionary.get?_insert, if_neg, hw]
    rintro rfl
    rw [hnone] at hw
    cases hw
  | works command argument v w' backend at_ hphase hv hstep =>
    left
    by_cases hi : id = i
    · subst hi
      obtain rfl := Option.some.inj (hv.symm.trans hw)
      obtain ⟨hsound, hstart⟩ := h.worker_of_handling hc hphase hv
      obtain ⟨m, hm, -⟩ := h.backend.store
      obtain ⟨hdoes, -⟩ := Worker.does_of_step? hm h.backend.script hsound.undisturbed hstep
      refine ⟨id, w', ?_, hdoes.pair?_eq hp, hdoes.request_eq.trans hr⟩
      rw [Dictionary.get?_insert, if_pos rfl]
    · refine ⟨i, w, ?_, hp, hr⟩
      rw [Dictionary.get?_insert, if_neg hi, hw]
  | finishes command argument result finished hphase hresult =>
    by_cases hi : id = i
    · -- It ends, and gives the pair.
      subst hi
      right
      obtain ⟨-, hstart⟩ := h.worker_of_handling hc hphase hw
      rw [hr] at hstart
      obtain ⟨rfl, rfl⟩ := command_of_start hstart
      cases hresult with
      | atOnce _ hnone =>
        rw [hnone] at hw
        cases hw
      | called v result hv hended =>
        obtain rfl := Option.some.inj (hv.symm.trans hw)
        obtain rfl := result_of_pair? hended hp
        exact ⟨id, c, _, hc, hphase, (withConnection_get? _ _ _ _).trans (if_pos rfl), rfl⟩
    · refine .inl ⟨i, w, ?_, hp, hr⟩
      rw [Dictionary.get?_erase, if_neg hi, hw]
  | faults command argument v fault hphase hv hfault =>
    by_cases hi : id = i
    · subst hi
      obtain rfl := Option.some.inj (hv.symm.trans hw)
      rw [hfault] at hp
      cases hp
    · refine .inl ⟨i, w, ?_, hp, hr⟩
      rw [Dictionary.get?_erase, if_neg hi, hw]

theorem Sound.numbered_of_gives (h : Sound s paths) (ha : Acts s t) (hg : Gives s t pair) :
    Numbered paths pair := by
  obtain hq | ⟨id, c, hc, hstep⟩ := ha.quiet_or_connects
  · obtain ⟨id, hr⟩ := hg
    exact absurd hr (hq.not_responds h.tracked)
  · obtain ⟨hphase, houtcome⟩ := (h.task hc hstep).gives h.tracked hc hg
    exact h.numbered_of_outcome hc hphase houtcome

theorem Sound.finding (h : Sound s paths) (ha : Acts s t) (hf : Finding s.workers pair) :
    Finding t.workers pair ∨ Gives s t pair := by
  obtain hq | ⟨id, c, hc, hstep⟩ := ha.quiet_or_connects
  · left
    rw [hq.workers]
    exact hf
  · exact (h.task hc hstep).finding h hc hf

theorem tracked_serving (listener : Listener) : (serving listener).Tracked := by
  have hnew := Server.tracked_new listener Ledger.commandTable
  have hbegun := Server.Step.beginServe.tracked hnew
  have hentered := (Server.Step.serve 0 .entering .enters _ rfl (.enters rfl)).tracked hbegun
  exact (Server.Step.serve 0 .marking .marks _ rfl .marks).tracked hentered

/-! ## Clients that call -/

/-- A service at rest that a client can call: no request is at work, nothing is under way on the
client's connection, and the clock does not end before the deadline of a request. -/
structure Callable (s : Service) (a : SocketId) : Prop where
  rests : s.step? = none
  free : ∀ id c, s.server.connections.get? id = some c → ∀ handler argument,
    c.phase ≠ .handling handler argument
  linked : s.host.Linked a [] []
  served : ∃ id, s.server.connections.get? id = some { stream := a + 1, phase := .polling }
  inTime : s.now + s.policy.deadline.nanos < clockEnd

theorem Waiting.not_handling {host : Host} (h : Waiting host c) (handler : Handler)
    (argument : String) : c.phase ≠ .handling handler argument := by
  intro hp
  unfold Waiting at h
  rw [hp] at h
  obtain ⟨h, -⟩ | h | h | h := h <;> cases h

/-- The clients of a ready service can call it. -/
theorem Ready.callable (hr : Ready path clients paths policy s) (ha : a ∈ clients)
    (hnow : s.now + policy.deadline.nanos < clockEnd) : s.Callable a := by
  obtain ⟨id, c, hc, -, hidle⟩ := hr.calm.clients a ha
  obtain ⟨rfl, hlinked⟩ := hidle (by rintro ⟨⟩)
  refine ⟨hr.calm.waits, fun id c hc => ?_, hlinked, ⟨id, hc⟩, ?_⟩
  · exact (hr.calm.idle id c hc (by rintro ⟨⟩)).not_handling
  · rw [hr.policy]
    exact hnow

/-- No call of the cache is at work while no connection handles a request. -/
theorem Callable.workers (hc : s.Callable a) (h : Sound s paths) (id : ConnectionId) :
    s.workers.get? id = none := by
  cases hw : s.workers.get? id with
  | none => rfl
  | some w =>
    obtain ⟨-, c, command, argument, hc', hphase, -⟩ := h.workers id w hw
    exact absurd hphase (hc.free id c hc' _ _)

end Service

/-! ## Everything that was given -/

/-- A service, and the pairs of an fsid and a path that it has given to its clients. -/
structure World where
  service : Service
  given : Pair → Prop

namespace World

variable {w w' : World} {path : String} {paths after : Ledger} {pair : Pair} {a : SocketId}

/-- What can happen next: a step of a task, a client that connects, and anything that clients do on
their connections while the clock goes on. -/
inductive Next (w : World) : World → Prop
  | acts (t : Service) (h : w.service.Acts t) :
    Next w ⟨t, fun pair => w.given pair ∨ w.service.Gives t pair⟩
  | connects (path : String) (client : SocketId) (host : Host)
      (h : w.service.host.connect path = .ok (client, host)) :
    Next w { w with service := { w.service with host } }
  | passes (host : Host) (now : Instant) (h : w.service.host.Beside host) :
    Next w { w with service := { w.service with host, now } }

/-- What can happen in any number of steps. -/
abbrev Runs : World → World → Prop := Relation.ReflTransGen Next

/-- What can become of a service with the four commands over a fresh store in memory that waits for
its clients at a path. -/
def Reached (path : String) (w : World) : Prop :=
  path ≠ "" ∧ ∃ enabled policy draw listener host bound now,
    host.Fresh ∧ Listener.bind host path = (.ok listener, bound) ∧
      Runs ⟨.fresh enabled policy draw listener bound now, fun _ => False⟩ w

/-- The list of paths holds what was given, and nothing else but what a call has found. -/
structure Kept (path : String) (w : World) (paths : Ledger) : Prop where
  running : ∃ base phase queue, w.service.Running path base phase queue
  sound : w.service.Sound paths
  given : ∀ pair, w.given pair → Numbered paths pair
  found : ∀ pair, Numbered paths pair → w.given pair ∨ Service.Finding w.service.workers pair

theorem Kept.acts (h : Kept path w paths) {t : Service} (ha : w.service.Acts t) :
    ∃ after, paths <+: after ∧
      Kept path ⟨t, fun pair => w.given pair ∨ w.service.Gives t pair⟩ after := by
  obtain ⟨base, phase, queue, hrunning⟩ := h.running
  obtain ⟨after, hgrown, hsound⟩ := h.sound.acts ha
  have hgrows : ∀ pair, Numbered paths pair → Numbered after pair := by
    intro pair hn
    obtain ⟨more, rfl⟩ := hgrown.isPrefix
    exact hn.append more
  have hfound : ∀ pair, Numbered paths pair → (w.given pair ∨ w.service.Gives t pair) ∨
      Service.Finding t.workers pair := by
    intro pair hn
    obtain hgiven | hfinding := h.found pair hn
    · exact .inl (.inl hgiven)
    · exact (h.sound.finding ha hfinding).symm.imp_left .inr
  have hnew : ∀ pair, Numbered after pair → Numbered paths pair ∨
      Service.Finding t.workers pair := by
    intro pair hn
    cases hgrown with
    | stays => exact .inl hn
    | allocates path fsid hv hf =>
      obtain hn | ⟨hpath, hnumber⟩ := numbered_concat_iff.mp hn
      · exact .inl hn
      · have hpair : pair = (fsid, path) := Prod.ext (Fsid.ext_val (hnumber.trans hv.symm)) hpath
        rw [hpair]
        exact .inr hf
  refine ⟨after, hgrown.isPrefix, ⟨⟨base, hrunning.acts h.sound ha⟩, hsound, ?_, ?_⟩⟩
  · rintro pair (hgiven | hgives)
    · exact hgrows pair (h.given pair hgiven)
    · exact hgrows pair (h.sound.numbered_of_gives ha hgives)
  · intro pair hn
    obtain hn | hf := hnew pair hn
    · exact hfound pair hn
    · exact .inr hf

/-- **Whatever happens, the list of paths holds what was given, and nothing else but what a call has
found.** -/
theorem Kept.next (h : Kept path w paths) (hn : Next w w') :
    ∃ after, paths <+: after ∧ Kept path w' after := by
  obtain ⟨base, phase, queue, hrunning⟩ := h.running
  have hs := h.sound
  cases hn with
  | acts t ha => exact h.acts ha
  | connects path' client host hc =>
    obtain ⟨queue', ht⟩ := hrunning.connects hc
    exact ⟨paths, List.prefix_refl _, ⟨base, phase, queue', ht⟩,
      ⟨hs.handlers, hs.tracked, hs.backend, hs.sendable, hs.phases, hs.workers⟩, h.given, h.found⟩
  | passes host now hb =>
    exact ⟨paths, List.prefix_refl _, ⟨base, phase, queue, hrunning.beside now hb⟩,
      ⟨hs.handlers, hs.tracked, hs.backend, hs.sendable, hs.phases, hs.workers⟩, h.given, h.found⟩

theorem Kept.runs (h : Kept path w paths) (hr : Runs w w') :
    ∃ after, paths <+: after ∧ Kept path w' after := by
  induction hr with
  | refl => exact ⟨paths, List.prefix_refl _, h⟩
  | tail _ hn ih =>
    obtain ⟨middle, hmiddle, hkept⟩ := ih
    obtain ⟨after, hafter, hkept⟩ := hkept.next hn
    exact ⟨after, hmiddle.trans hafter, hkept⟩

/-! ### From the start -/

theorem kept_fresh {enabled : Bool} {policy : Retry.Policy} {draw : Retry.Backoff → Nat}
    {listener : Listener} {host : Host} {now : Instant} (ho : host.Open path listener.socket)
    (hf : host.Fresh) :
    Kept path ⟨.fresh enabled policy draw listener host now, fun _ => False⟩ [] := by
  have hcalm := Service.calm_serving ho hf
  have hstreams : ∀ id, (Service.serving listener).stream? id = none := fun _ => rfl
  rw [Service.fresh_eq ho hf]
  refine ⟨⟨host.nextSocket, .polling, [], ?_⟩, ?_, fun _ hgiven => hgiven.elim,
    fun pair hn => absurd hn (not_numbered_nil pair)⟩
  · refine ⟨hcalm.serves, rfl, rfl, rfl, rfl, ho.queued, fun id l hl => ?_, hf, ?_⟩
    · exact hf.lt (Host.get?_of_listening? hl)
    · refine ⟨⟨0, rfl⟩, List.nodup_nil, ?_, ?_, ?_, ?_⟩
      · rintro x ⟨⟩
      · rintro x ⟨⟩
      · intro id x hx
        rw [hstreams] at hx
        cases hx
      · intro id id' x hx
        rw [hstreams] at hx
        cases hx
  · exact ⟨rfl, Service.tracked_serving listener, ⟨⟨.empty, rfl, MemoryStore.holds_empty⟩, rfl,
      Cache.within_empty enabled⟩, (by rintro p ⟨⟩), (by rintro id c ⟨⟩), (by rintro id w ⟨⟩)⟩

/-- **The list of paths of everything that is reached.** -/
theorem Reached.kept (h : Reached path w) : ∃ paths, Kept path w paths := by
  obtain ⟨hpath, enabled, policy, draw, listener, host, bound, now, hf, hb, hruns⟩ := h
  obtain ⟨ho, hf⟩ := Listener.open_of_bind hpath hf hb
  obtain ⟨paths, -, hkept⟩ := (kept_fresh ho hf).runs hruns
  exact ⟨paths, hkept⟩

/-- Nothing was given while the list is empty. -/
theorem Reached.not_given (h : Reached path w) (hb : w.service.backend.Holds []) (pair : Pair) :
    ¬ w.given pair := by
  intro hgiven
  obtain ⟨paths, hkept⟩ := h.kept
  obtain rfl := hkept.sound.backend.unique hb
  exact not_numbered_nil pair (hkept.given pair hgiven)

/-! ### Rest -/

/-- **At rest the list of paths is what was given.** -/
theorem Kept.numbered_iff (h : Kept path w paths) (hc : w.service.Callable a) :
    Numbered paths pair ↔ w.given pair := by
  constructor
  · intro hn
    obtain hgiven | ⟨id, worker, hw, -⟩ := h.found pair hn
    · exact hgiven
    · rw [hc.workers h.sound id] at hw
      cases hw
  · exact h.given pair

/-- **At rest a service is ready**, as it is after its clients came one by one. -/
theorem Kept.ready (h : Kept path w paths) (hc : w.service.Callable a) :
    w.service.Ready path [a] paths w.service.policy := by
  obtain ⟨base, phase, queue, hrunning⟩ := h.running
  refine ⟨hrunning.calm h.sound hc.rests hc.free fun b hb => ?_, h.sound.backend,
    hc.workers h.sound, fun p hp => (h.sound.sendable p hp).2, rfl⟩
  rw [List.mem_singleton.mp hb]
  exact ⟨hc.linked, hc.served⟩

/-! ### Runs of a service -/

theorem runs_run (w : World) (fuel : Nat) : ∃ w', Runs w w' ∧ w'.service = w.service.run fuel := by
  induction fuel generalizing w with
  | zero => exact ⟨w, .refl, rfl⟩
  | succ fuel ih =>
    rw [Service.run]
    cases hstep : w.service.step? with
    | none => exact ⟨w, .refl, rfl⟩
    | some t =>
      have hnext := Next.acts (w := w) t (Service.acts_of_step? hstep)
      obtain ⟨w', hruns, hservice⟩ := ih ⟨t, _⟩
      exact ⟨w', .head hnext hruns, hservice⟩

/-- What happens between a call and its answer is something that can happen. -/
theorem runs_between {t : Service} (hb : w.service.Between t) :
    ∃ w', Runs w w' ∧ w'.service = t := by
  obtain ⟨n, host, u, host', hbefore, hgoes, hafter, rfl⟩ := hb
  have hsends : Next w { w with service := { w.service with host } } :=
    .passes host w.service.now hbefore
  obtain ⟨v, hruns, hservice⟩ := runs_run { w with service := { w.service with host } } (n + 0)
  have hrun : v.service = u := hservice.trans (Service.run_of_goes hgoes 0)
  subst hrun
  have hreceives : Next v { v with service := { v.service with host := host' } } :=
    .passes host' v.service.now hafter
  exact ⟨_, (Relation.ReflTransGen.head hsends hruns).tail hreceives, rfl⟩

theorem runs_connect {t : Service} (hc : w.service.connect path = (.ok a, t)) :
    ∃ w', Runs w w' ∧ w'.service = t := by
  unfold Service.connect at hc
  split at hc
  · rename_i client host hconnect
    cases hc
    obtain ⟨w', hruns, hservice⟩ :=
      runs_run { w with service := { w.service with host } } Service.stepLimit
    exact ⟨w', .head (.connects path a host hconnect) hruns, hservice⟩
  · cases hc

/-- The first client of a fresh service can call it, before anything was given. -/
theorem reached_of_first_client (enabled : Bool) (policy : Retry.Policy)
    (draw : Retry.Backoff → Nat) (now : Instant) {listener : Listener} {host bound : Host}
    (hpath : path ≠ "") (hf : host.Fresh)
    (hb : Listener.bind host path = (.ok listener, bound))
    (hnow : now + policy.deadline.nanos < clockEnd) :
    ∃ w a, Reached path w ∧ w.service.Callable a ∧ (∀ pair, ¬ w.given pair) ∧
      w.service.backend.Holds [] := by
  obtain ⟨ho, hfresh⟩ := Listener.open_of_bind hpath hf hb
  generalize hstart : Service.fresh enabled policy draw listener bound now = start
  obtain ⟨hready, hclock⟩ : Service.Ready path [] [] policy start ∧ start.now = now :=
    hstart ▸ Service.fresh_spec ho hfresh
  obtain ⟨t, hconnect, hsame, ht⟩ := hready.connect
  obtain ⟨w, hruns, rfl⟩ := runs_connect (w := ⟨start, fun _ => False⟩) hconnect
  subst hstart
  have hreached : Reached path w :=
    ⟨hpath, enabled, policy, draw, listener, host, bound, now, hf, hb, hruns⟩
  have hinTime : w.service.now + policy.deadline.nanos < clockEnd := by
    rw [hsame, hclock]
    exact hnow
  exact ⟨w, _, hreached, ht.callable List.mem_cons_self hinTime, hreached.not_given ht.backend,
    ht.backend⟩

end World

end FsidRegistry
