import FsidRegistry.Proofs.Cache.Progress
import FsidRegistry.Proofs.Service.InFlight

/-!
# Requests come to an end

A request that is at work beside others takes a few steps of its connection's task.  It waits for nobody
else, only for the clock, and ends with a response.  Only a request that creates the fsid of a path can
end without one, and only if somebody else was faster: the pause before its next attempt may be too long
for the clock.

* `Service.AtWork`, `World.Works`: a request at work, and the steps that its task has made for it.
* `World.Attends.works_le`: how many these are.
* `World.Attends.exists_connectionStep`: there is always a next one, once the clock has gone on.
* `World.Attends.ends`: the last one writes a response, unless the call has faulted.
* `World.Punctual`, `World.Punctual.next`: what faults while the clock does not end.
* `World.Finishes`, `World.Punctual.finishes`: all of it.
-/

namespace FsidRegistry

namespace Service

variable {s t : Service} {id : ConnectionId} {c : Connection Handler} {paths after : Ledger}
  {command : Command} {argument : String}

/-- A command is at work for a connection. -/
def AtWork (s : Service) (id : ConnectionId) : Prop :=
  ∃ c command argument, s.server.connections.get? id = some c ∧
    c.phase = .handling (.command command) argument

/-- How many steps the task of a connection has left at most while a command is at work. -/
def left (s : Service) (id : ConnectionId) (paths : Ledger) : Nat :=
  match s.workers.get? id with
  | some w => w.rank paths
  | none => 11

theorem left_of_some {w : Worker} (hw : s.workers.get? id = some w) (paths : Ledger) :
    s.left id paths = w.rank paths := by
  rw [left, hw]

theorem left_of_none (hw : s.workers.get? id = none) (paths : Ledger) : s.left id paths = 11 := by
  rw [left, hw]

theorem left_le (s : Service) (id : ConnectionId) (paths : Ledger) : s.left id paths ≤ 11 := by
  cases hw : s.workers.get? id with
  | none => rw [left_of_none hw]
  | some w =>
    rw [left_of_some hw]
    exact Nat.le_succ_of_le (w.rank_le_ten paths)

/-- A step that leaves the call of a connection as it is leaves no more steps. -/
theorem left_le_of_same (h : t.workers.get? id = s.workers.get? id) (hgrown : paths <+: after) :
    t.left id after ≤ s.left id paths := by
  cases hw : s.workers.get? id with
  | none => rw [left_of_none hw, left_of_none (h.trans hw)]
  | some w =>
    rw [left_of_some hw, left_of_some (h.trans hw)]
    exact w.rank_le_of_grown hgrown

/-! ## Steps that can be made -/

/-- The step that ends a command can be made. -/
theorem exists_answer (hc : s.server.connections.get? id = some c) {handler : Handler}
    (hphase : c.phase = .handling handler argument) (finished : List FinishedRequest)
    (workers : Dictionary ConnectionId Worker) (result : Except Error String) :
    ∃ t, { s with finished, workers }.answer? id result = some t :=
  ⟨_, advance?_connection (s := { s with finished, workers }) hc
    (Connection.Step.answers handler argument result hphase).step?⟩

/-- A command that has no call at work can make a step. -/
theorem exists_connectionStep_of_none (hc : s.server.connections.get? id = some c)
    (hphase : c.phase = .handling (.command command) argument) (hw : s.workers.get? id = none) :
    ∃ t, s.connectionStep? id c = some t := by
  unfold connectionStep?
  dsimp only
  rw [hphase]
  unfold handlerStep?
  dsimp only
  rw [hw]
  dsimp only
  cases command.start argument with
  | ok request => exact ⟨_, rfl⟩
  | error result => exact exists_answer hc hphase _ _ result

/-- A command whose call is over, or can go on, can make a step. -/
theorem exists_connectionStep_of_some (hc : s.server.connections.get? id = some c)
    (hphase : c.phase = .handling (.command command) argument) {w : Worker}
    (hw : s.workers.get? id = some w)
    (h : w.call.phase.IsOver ∨ ∃ x, w.step? s.draw ⟨s.now, c.cancelled⟩ s.backend = some x) :
    ∃ t, s.connectionStep? id c = some t := by
  unfold connectionStep?
  dsimp only
  rw [hphase]
  unfold handlerStep?
  dsimp only
  rw [hw]
  dsimp only
  unfold workerStep?
  split
  · exact exists_answer hc hphase _ _ _
  · exact ⟨_, advance?_connection (s := { s with workers := s.workers.erase id }) hc
      (Connection.Step.faults _ argument hphase).step?⟩
  · rename_i hfinished hfaulted
    obtain hover | ⟨x, hx⟩ := h
    · cases hp : w.call.phase with
      | finished result => exact absurd hp (hfinished result)
      | faulted fault => exact absurd hp (hfaulted fault)
      | _ =>
        rw [hp] at hover
        exact hover.elim
    · rw [hx]
      exact ⟨_, rfl⟩

end Service

namespace World

variable {w u v : World} {path : String} {old paths after : Ledger} {id : ConnectionId} {t : Service}
  {c : Connection Handler} {command : Command} {argument : String} {n : Nat}

/-! ## Steps of a request -/

/-- The task of a connection has made `n` steps for a command that was at work all the time, while
others did anything. -/
inductive Works (id : ConnectionId) (w : World) : Nat → World → Prop
  | first (h : w.service.AtWork id) : Works id w 0 w
  | beside {n : Nat} {u v : World} (h : Works id w n u) (hn : Next u v) (hv : v.service.AtWork id) :
    Works id w n v
  | goes {n : Nat} {u : World} {c : Connection Handler} {t : Service} (h : Works id w n u)
      (hc : u.service.server.connections.get? id = some c)
      (hs : u.service.connectionStep? id c = some t) (ht : t.AtWork id) :
    Works id w (n + 1) ⟨t, fun pair => u.given pair ∨ u.service.Gives t pair⟩

theorem Works.atWork (h : Works id w n u) : u.service.AtWork id := by
  cases h with
  | first h => exact h
  | beside _ _ hv => exact hv
  | goes _ _ _ ht => exact ht

/-- A step that carries the call of a connection on leaves fewer steps. -/
theorem Attends.left_lt (h : Attends path id old w paths) (hcarries : w.service.Carries t id)
    (ht : t.AtWork id) (hgrown : paths <+: after) : t.left id after < w.service.left id paths := by
  cases hcarries with
  | begins request hw hbegun =>
    rw [Service.left_of_none hw, Service.left_of_some hbegun]
    exact Nat.lt_succ_self 10
  | works c command argument worker worker' at_ hc hphase hw hw' hstep =>
    rw [Service.left_of_some hw, Service.left_of_some hw']
    exact (h.stands hw).rank_lt (h.uncancelled.of_open hc (by rw [hphase]; rfl)) hstep hgrown
  | ends d hd hfree =>
    obtain ⟨d', command, argument, hd', hphase⟩ := ht
    obtain rfl := Option.some.inj (hd.symm.trans hd')
    exact absurd hphase (hfree _ _)

/-- What others do leaves no more steps. -/
theorem Attends.left_le (h : Attends path id old w paths) (hn : Next w u)
    (hu : u.service.AtWork id) (hgrown : paths <+: after) :
    u.service.left id after ≤ w.service.left id paths := by
  cases hn with
  | connects | passes => exact Service.left_le_of_same rfl hgrown
  | acts t ha =>
    obtain hsame | hcarries := h.kept.sound.workers_eq_or_carries ha id
    · exact Service.left_le_of_same hsame hgrown
    · exact Nat.le_of_lt (h.left_lt hcarries hu hgrown)

theorem Attends.works (h : Attends path id old w paths) (hw : Works id w n u) :
    ∃ after, Attends path id old u after ∧
      n + u.service.left id after ≤ w.service.left id paths := by
  induction hw with
  | first => exact ⟨paths, h, Nat.le_of_eq (Nat.zero_add _)⟩
  | beside _ hn hv ih =>
    obtain ⟨middle, hmiddle, hle⟩ := ih
    obtain ⟨after, hgrown, hafter⟩ := hmiddle.next hn
    exact ⟨after, hafter,
      Nat.le_trans (Nat.add_le_add_left (hmiddle.left_le hn hv hgrown) _) hle⟩
  | goes hworks hc hs ht ih =>
    obtain ⟨middle, hmiddle, hle⟩ := ih
    obtain ⟨after, hgrown, hafter⟩ := hmiddle.next (.acts _ (.connects id _ _ hc hs))
    obtain ⟨c, command, argument, hc', hphase⟩ := hworks.atWork
    obtain rfl := Option.some.inj (hc.symm.trans hc')
    have hlt := hmiddle.left_lt ((hmiddle.kept.sound.task hc hs).carries hc hphase) ht hgrown
    refine ⟨after, hafter, ?_⟩
    dsimp only
    omega

/-- **A request takes eleven steps at most before the one that ends it.** -/
theorem Attends.works_le (h : Attends path id old w paths) (hw : Works id w n u) : n ≤ 11 := by
  obtain ⟨after, -, hle⟩ := h.works hw
  exact Nat.le_trans (Nat.le_of_add_right_le hle) (Service.left_le _ _ _)

/-- **A request waits for nothing but the clock.** -/
theorem Attends.exists_connectionStep (h : Attends path id old w paths)
    (hc : w.service.server.connections.get? id = some c)
    (hphase : c.phase = .handling (.command command) argument) :
    ∃ due, ∀ now, due ≤ now → ∃ t, { w.service with now }.connectionStep? id c = some t := by
  cases hw : w.service.workers.get? id with
  | none =>
    exact ⟨0, fun now _ => Service.exists_connectionStep_of_none (s := { w.service with now })
      hc hphase hw⟩
  | some worker =>
    obtain hover | ⟨due, hdue⟩ := Worker.isOver_or_exists_step (h.late worker hw) w.service.draw
      w.service.backend
    · exact ⟨0, fun now _ => Service.exists_connectionStep_of_some (s := { w.service with now })
        hc hphase hw (.inl hover)⟩
    · exact ⟨due, fun now hnow => Service.exists_connectionStep_of_some
        (s := { w.service with now }) hc hphase hw (.inr (hdue ⟨now, c.cancelled⟩ hnow))⟩

/-- **A step of a request leaves it at work or writes its response**, unless its call has faulted. -/
theorem Attends.ends (h : Attends path id old w paths)
    (hc : w.service.server.connections.get? id = some c)
    (hphase : c.phase = .handling (.command command) argument)
    (hs : w.service.connectionStep? id c = some t) :
    t.AtWork id ∨ (∃ r, w.service.Responds t id command argument r) ∨
      ∃ worker fault, w.service.workers.get? id = some worker ∧
        worker.call.phase = .faulted fault := by
  cases h.kept.sound.task hc hs with
  | goes _ _ _ _ hfree => exact absurd hphase (hfree _ _)
  | untracks hp | announces hp =>
    rw [hp] at hphase
    cases hphase
  | begins => exact .inl ⟨c, command, argument, hc, hphase⟩
  | works =>
    exact .inl ⟨_, command, argument, (Service.withConnection_get? _ _ _ _).trans (if_pos rfl),
      hphase⟩
  | finishes _ _ result =>
    exact .inr (.inl ⟨.ofResult result, c, _, hc, hphase,
      (Service.withConnection_get? _ _ _ _).trans (if_pos rfl), rfl⟩)
  | faults _ _ worker fault _ hw hp => exact .inr (.inr ⟨worker, fault, hw, hp⟩)

/-! ## Faults -/

/-- The clock does not end before the deadline of the call that a connection has at work. -/
def InTime (w : World) (id : ConnectionId) : Prop :=
  ∀ worker, w.service.workers.get? id = some worker →
    w.service.now + worker.call.policy.deadline.nanos < clockEnd

/-- What can happen in any number of steps while a connection's calls are in time. -/
abbrev RunsInTime (id : ConnectionId) : World → World → Prop :=
  Relation.ReflTransGen fun w u => w.InTime id ∧ Next w u

/-- The calls that a connection has at work have begun since `old` was the list of paths, and fault
only if somebody else was faster. -/
structure Punctual (path : String) (id : ConnectionId) (old : Ledger) (w : World) (paths : Ledger) :
    Prop where
  attends : Attends path id old w paths
  outrun : ∀ worker fault, w.service.workers.get? id = some worker →
    worker.call.phase = .faulted fault → worker.call.Outrun old paths

/-- A connection that has no call at work begins its next one in time. -/
theorem Attends.punctual (h : Attends path id old w paths)
    (hw : w.service.workers.get? id = none) : Punctual path id paths w paths := by
  refine ⟨h.anew hw, fun worker fault hworker => ?_⟩
  rw [hw] at hworker
  cases hworker

theorem Punctual.next (h : Punctual path id old w paths) (hin : w.InTime id) (hn : Next w u) :
    ∃ after, Punctual path id old u after := by
  obtain ⟨after, hgrown, hafter⟩ := h.attends.next hn
  refine ⟨after, hafter, fun worker fault hw hf => ?_⟩
  obtain hsame | ⟨request, rfl⟩ | ⟨before, at_, hbefore, hstep⟩ := h.attends.worker_cases hn hw
  · exact (h.outrun worker fault hsame hf).mono hgrown
  · cases hf
  · exact ((h.attends.stands hbefore).outrun_of_faulted rfl hstep (hin before hbefore) hf).mono hgrown

theorem Punctual.runs (h : Punctual path id old w paths) (hr : RunsInTime id w u) :
    ∃ after, Punctual path id old u after := by
  induction hr with
  | refl => exact ⟨paths, h⟩
  | tail _ hn ih =>
    obtain ⟨middle, hmiddle⟩ := ih
    exact hmiddle.next hn.1 hn.2

/-! ## Ends -/

/-- How a request of a connection comes to its end in `u` that has begun after `w`.  It takes eleven
steps at most before the one that ends it, and waits for nothing but the clock.  The last one writes
the response, unless the call has faulted because somebody else has created the pair since `w`. -/
structure Finishes (w u : World) (id : ConnectionId) : Prop where
  few : ∀ n v, Works id u n v → n ≤ 11
  goesOn : ∀ c command argument, u.service.server.connections.get? id = some c →
    c.phase = .handling (.command command) argument →
    ∃ due, ∀ now, due ≤ now → ∃ t, { u.service with now }.connectionStep? id c = some t
  ends : ∀ c command argument t, u.service.server.connections.get? id = some c →
    c.phase = .handling (.command command) argument → u.service.connectionStep? id c = some t →
    t.AtWork id ∨ (∃ r, u.service.Responds t id command argument r) ∨
      (command = .getOrCreateFsid ∧ (∃ n, u.Created (n, argument)) ∧ ∀ n, ¬ w.given (n, argument))

/-- **A request ends**, whoever else asks meanwhile. -/
theorem Punctual.finishes (h : Punctual path id old u paths)
    (hold : ∀ pair, w.given pair → Numbered old pair) : Finishes w u id where
  few _ _ hw := h.attends.works_le hw
  goesOn _ _ _ hc hphase := h.attends.exists_connectionStep hc hphase
  ends c command argument t hc hphase hs := by
    obtain hwork | hresponds | ⟨worker, fault, hw, hf⟩ := h.attends.ends hc hphase hs
    · exact .inl hwork
    · exact .inr (.inl hresponds)
    · obtain ⟨p, hr, hnew, hmem⟩ := h.outrun worker fault hw hf
      obtain ⟨-, hstart⟩ := h.attends.kept.sound.worker_of_handling hc hphase hw
      rw [hr] at hstart hnew
      obtain ⟨rfl, rfl⟩ := Service.command_of_start hstart
      obtain ⟨m, -, hm⟩ := h.attends.kept.sound.backend.store
      obtain ⟨n, -, hn⟩ := hm.fsidOf_of_mem hmem
      exact .inr (.inr ⟨rfl, ⟨n, h.attends.kept.created_iff.mpr hn⟩,
        fun n hgiven => hnew (n, argument) rfl (hold _ hgiven)⟩)

end World

end FsidRegistry
