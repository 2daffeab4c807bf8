import FsidRegistry.Proofs.Server.Live

/-!
# What a handler's fault leaves behind

A connection's task takes the connection out of the tracker after its loop, whatever has ended the
loop: the end of the stream, a failed receive or write, a short write, or a stop.  A fault of a
handler ends the task on the spot, before it comes to this.  So the tracker holds the connections
whose task has not ended and, besides them, those whose task a fault has ended.

* `Reachable.live_iff`: what the tracker holds, in terms of where the tasks stand.
* `Step.faulted`, `Steps.faulted`: nothing takes a faulted connection out of the tracker.
* `live_set_is_exact_but_for_faults`: the two together; `live_set_is_not_exact` is a run at whose
  end the tracker holds a connection that no task serves.
* `drain_waits_for_faulted`: a graceful stop that waits for the connections never sees none of them
  again.
-/

namespace FsidRegistry

namespace ConnectionPhase

variable {η : Type}

/-- Whether a handler's fault has ended the task. -/
def isFaulted : ConnectionPhase η → Bool
  | .faulted => true
  | _ => false

/-- Whether the task has ended, of which leaving the tracker is the last step. -/
def isOver (p : ConnectionPhase η) : Bool := p.hasLeft || p.isFaulted

theorem hasLeft_eq_false_iff (p : ConnectionPhase η) :
    p.hasLeft = false ↔ p.isOver = false ∨ p.isFaulted = true := by
  cases p <;> simp [isOver, hasLeft, isFaulted]

end ConnectionPhase

/-- A task that a fault has ended makes no step. -/
theorem Connection.Step.ne_faulted {η : Type} {table : HandlerTable η} {c d : Connection η}
    {e : ConnectionEvent} (h : c.Step table e d) : c.phase ≠ .faulted := by
  intro hf
  cases h with
  | tests h | polls h | receives _ h | receiveFails h | receiveWaits h | answers _ _ _ h
  | faults _ _ h | writes _ _ h | writeFails _ h | writeGivesUp _ h | flags h | shuts h
  | cancels h =>
    rw [hf] at h
    cases h

namespace Server

variable {η : Type} {s t : Server η} {id : ConnectionId}

/-- The tracker holds the connections whose task has not ended, and those that faulted. -/
theorem Reachable.live_iff (h : Reachable s) (id : ConnectionId) :
    id ∈ s.tracker.live ↔ ∃ p, s.phase? id = some p ∧ (p.isOver = false ∨ p.isFaulted = true) := by
  rw [h.tracked.live id]
  exact exists_congr fun p => and_congr_right fun _ => p.hasLeft_eq_false_iff

/-- No step of any task moves a connection that faulted. -/
theorem Step.faulted {e : ServerEvent} (h : Tracked s) (hstep : Step s e t)
    (hp : s.phase? id = some .faulted) : t.phase? id = some .faulted := by
  obtain ⟨c, hc, hf⟩ := Option.map_eq_some_iff.mp hp
  obtain ⟨d, hd, hmoves⟩ := hstep.moves h hc
  rw [phase?_of_get? hd]
  cases hmoves with
  | steps e d hstep => exact absurd hf hstep.ne_faulted
  | starts _ h | untracks h | announces h =>
    rw [hf] at h
    cases h
  | flags | cancels | stays => exact congrArg some hf

theorem Steps.faulted (hs : Reachable s) (h : Steps s t) (hp : s.phase? id = some .faulted) :
    t.phase? id = some .faulted := by
  induction h with
  | refl => exact hp
  | tail hst hn ih =>
    obtain ⟨e, he⟩ := hn
    exact (step?_eq_some_iff.mp he).faulted (hs.trans hst).tracked ih

/-- **The tracker holds the connections whose task has not ended, each once, and besides them those
whose task a handler's fault has ended**, which it holds for good. -/
theorem live_set_is_exact_but_for_faults (hs : Reachable s) :
    s.tracker.live.Nodup ∧
    (∀ id, id ∈ s.tracker.live ↔
      ∃ p, s.phase? id = some p ∧ (p.isOver = false ∨ p.isFaulted = true)) ∧
    ∀ id, s.phase? id = some .faulted → ∀ t, Steps s t → id ∈ t.tracker.live := by
  refine ⟨hs.tracked.nodup, hs.live_iff, fun id hp t hst => ?_⟩
  exact ((hs.trans hst).live_iff id).mpr ⟨_, Steps.faulted hs hst hp, .inr rfl⟩

/-- A new server with one handler. -/
def pingServer : Server Unit :=
  { listener := ⟨0, some "/run/fsidd.sock"⟩
    handlers := (∅ : HandlerTable Unit).insert "PING" () }

/-- Its first connection is accepted, and the handler of its first request faults. -/
def pingFaults : List ServerEvent :=
  [.beginServe, .serve 0 .enters, .serve 0 .marks, .serve 0 .polls, .serve 0 (.accepts 5),
    .serve 0 .tracks, .serve 0 .spawns, .connection 1 .tests, .connection 1 .polls,
    .connection 1 (.receives ⟨#[112, 105, 110, 103]⟩), .connection 1 .faults]

/-- A handler faults, and a graceful stop gives up waiting for its connection. -/
theorem live_set_is_exact_but_for_faults_after_stop :
    ∃ s t : Server Unit, s.tracker.live = [1] ∧ s.phase? 1 = some .faulted ∧
      (∃ stop, t.stops.get? 0 = some stop ∧ stop.phase = .finished) ∧ 1 ∈ t.tracker.live := by
  let after : List ServerEvent :=
    [.beginStop false .zero, .stop 0 .marks, .stop 0 .notifies, .stop 0 .requests,
      .stop 0 (.closes .removed), .serve 0 .polls, .serve 0 .leaves, .serve 0 .notifies,
      .stop 0 (.waits .registers), .stop 0 (.waits .checks), .stop 0 .lists, .stop 0 .flags,
      .stop 0 (.shuts (.ok ())), .stop 0 (.lingers 0), .stop 0 (.waits .registers),
      .stop 0 (.waits .checks), .stop 0 (.givesUp 0)]
  have hrun : (pingServer.steps? pingFaults).any (fun s => s.tracker.live == [1] &&
      (s.phase? 1).any (·.isFaulted) && (s.steps? after).any (fun t =>
        (t.stops.get? 0).any fun stop => decide (stop.phase = .finished))) = true := by
    decide +kernel
  simp only [Option.any_eq_true, Bool.and_eq_true, decide_eq_true_eq, beq_iff_eq] at hrun
  obtain ⟨s, hs, ⟨hlive, p, hp, hfaulted⟩, t, ht, hstop⟩ := hrun
  have hphase : s.phase? 1 = some .faulted := by
    cases p <;> first | exact hp | cases hfaulted
  have h := live_set_is_exact_but_for_faults ⟨_, _, steps_of_steps? hs⟩
  exact ⟨s, t, hlive, hphase, hstop, h.2.2 1 hphase t (steps_of_steps? ht)⟩

/-- The tracker may hold a connection whose task has ended. -/
theorem live_set_is_not_exact : ¬ ∀ s : Server Unit, Reachable s → ∀ id,
    id ∈ s.tracker.live ↔ ∃ p, s.phase? id = some p ∧ p.isOver = false := by
  intro hexact
  have hrun : (pingServer.steps? pingFaults).any (fun s => s.tracker.live == [1] &&
      (s.phase? 1).all (·.isOver)) = true := by
    decide +kernel
  simp only [Option.any_eq_true, Bool.and_eq_true, beq_iff_eq] at hrun
  obtain ⟨s, hs, hlive, hover⟩ := hrun
  obtain ⟨p, hp, hnot⟩ := (hexact s ⟨_, _, steps_of_steps? hs⟩ 1).mp (by rw [hlive]; simp)
  rw [hp, Option.all_some, hnot] at hover
  cases hover

/-- **A graceful stop that waits for the connections never sees none of them after a fault**: it goes
on waiting, until its time is over. -/
theorem drain_waits_for_faulted (hs : Reachable s) (hp : s.phase? id = some .faulted) {n : Nat}
    {stop : Stop} {w : Wait} {limit : Instant} {e : Wait.Event} (hn : s.stops.get? n = some stop)
    (hw : stop.phase = .draining w limit) (ht : s.step? (.stop n (.waits e)) = some t) :
    ∃ stop' w', t.stops.get? n = some stop' ∧ stop'.phase = .draining w' limit := by
  have hlive : id ∈ s.tracker.live := (hs.live_iff id).mpr ⟨_, hp, .inr rfl⟩
  cases step?_eq_some_iff.mp ht with
  | stop _ stop₀ _ _ hn₀ hstep =>
    obtain rfl := Option.some.inj (hn.symm.trans hn₀)
    cases hstep with
    | waitsForConnections w₀ w' limit₀ e h₀ _ =>
      rw [hw] at h₀
      cases h₀
      exact ⟨_, w', Dictionary.get?_insert _ _ _ _ |>.trans (if_pos rfl), rfl⟩
    | seesNoConnection w₀ limit₀ e _ hsees =>
      rw [List.isEmpty_iff.mp (Wait.eq_true_of_step? hsees)] at hlive
      cases hlive
    | waitsForLoops _ _ _ h₀ => rw [hw] at h₀; cases h₀
    | seesNoLoop _ _ h₀ => rw [hw] at h₀; cases h₀

end Server

end FsidRegistry
