import Mathlib.Algebra.GroupWithZero.Nat
import FsidRegistry.Proofs.Server.Live

/-!
# The last request of a connection

A stop sets the flag of a connection and shuts its stream for reading.  The connection tests the flag
before it receives, not after: a packet that is queued already is still received if the task is past
the test.  So one more request may be taken, and no second one.

* `Connection.remaining`: how many requests a connection may still take once its flag is set, read
  off the place where its task stands.
* `Connection.Step.remaining_le`, `Moves.remaining_le`: each step takes from it what it uses up.
* `requests_after_flag_le`: what a whole run can take after the flag is set.
* `request_follows_shutdown`: a run in which a stop is past the connection, and a handler is called
  for one more request.
-/

namespace FsidRegistry

/-- The request packets that an event of a connection takes: the empty packet is the end. -/
def ConnectionEvent.taken : ConnectionEvent → Nat
  | .receives packet => if packet.size = 0 then 0 else 1
  | _ => 0

/-- The request packets that an event takes from connection `id`. -/
def ServerEvent.taken (id : ConnectionId) : ServerEvent → Nat
  | .connection i e => if i = id then e.taken else 0
  | _ => 0

/-- The request packets that a list of events takes from connection `id`. -/
def requestsTaken (id : ConnectionId) (es : List ServerEvent) : Nat :=
  (es.map (·.taken id)).sum

/-- The argument that a handler is called with. -/
def ConnectionPhase.argument? {η : Type} : ConnectionPhase η → Option String
  | .handling _ argument => some argument
  | _ => none

namespace Connection

variable {η : Type} {table : HandlerTable η} {c d : Connection η} {e : ConnectionEvent}

/-- How many requests a connection may still take once its flag is set. -/
def remaining (c : Connection η) : Nat :=
  match c.phase with
  | .receiving => 1
  | .polling => if c.cancelled then 0 else 1
  | _ => 0

theorem remaining_le_one (c : Connection η) : c.remaining ≤ 1 := by
  unfold remaining
  split
  · exact Nat.le_refl 1
  · split <;> decide
  · exact Nat.zero_le 1

theorem remaining_phaseAfter (c : Connection η) (table : HandlerTable η) (packet : ByteArray) :
    ({ c with phase := phaseAfter table packet } : Connection η).remaining = 0 := by
  unfold phaseAfter
  split
  · rfl
  · split <;> rfl

/-- A step of a connection whose flag is set takes from what remains what it uses up. -/
theorem Step.remaining_le (h : c.Step table e d) (hf : c.inShutdown = true) :
    d.inShutdown = true ∧ d.remaining + e.taken ≤ c.remaining := by
  cases h with
  | tests hp =>
    refine ⟨hf, ?_⟩
    simp [hf, remaining, ConnectionEvent.taken]
  | polls hp =>
    refine ⟨hf, ?_⟩
    cases hc : c.cancelled <;> simp [hp, hc, remaining, ConnectionEvent.taken]
  | receives packet hp =>
    have htaken : (ConnectionEvent.receives packet).taken ≤ 1 := by
      show (if packet.size = 0 then 0 else 1) ≤ 1
      split <;> decide
    refine ⟨hf, ?_⟩
    rw [remaining_phaseAfter, Nat.zero_add, remaining, hp]
    exact htaken
  | receiveWaits hp =>
    refine ⟨hf, ?_⟩
    rw [show c.remaining = 1 by rw [remaining, hp]]
    exact remaining_le_one { c with phase := .polling }
  | writes response bytes hp =>
    refine ⟨hf, ?_⟩
    by_cases hb : bytes < response.size <;> simp [hb, remaining, ConnectionEvent.taken]
  | flags hp => exact ⟨rfl, Nat.zero_le _⟩
  | _ => exact ⟨hf, Nat.zero_le _⟩

end Connection

namespace Server

variable {η : Type} {s t : Server η} {id : ConnectionId}

theorem remaining_cancelled_le (c : Connection η) :
    ({ c with cancelled := true } : Connection η).remaining ≤ c.remaining := by
  unfold Connection.remaining
  dsimp only
  split
  · exact Nat.le_refl 1
  · exact Nat.zero_le _
  · exact Nat.zero_le _

/-- Every step of the server takes from what remains to a connection what it uses up. -/
theorem Moves.remaining_le {table : HandlerTable η} {c d : Connection η} {e : ServerEvent}
    (h : Moves table id c e d) (hf : c.inShutdown = true) :
    d.inShutdown = true ∧ d.remaining + e.taken id ≤ c.remaining := by
  cases h with
  | steps e d hstep =>
    rw [ServerEvent.taken, if_pos rfl]
    exact hstep.remaining_le hf
  | starts | untracks | announces => exact ⟨hf, Nat.zero_le _⟩
  | flags => exact ⟨rfl, Nat.le_refl _⟩
  | cancels => exact ⟨hf, remaining_cancelled_le c⟩
  | stays e hother =>
    have hnone : e.taken id = 0 := by
      cases e with
      | connection i e =>
        refine if_neg fun hi => ?_
        exact hother e (by rw [hi])
      | _ => rfl
    rw [hnone]
    exact ⟨hf, Nat.le_refl _⟩

/-- **Once the flag of a connection is set, it takes one more request at most**: none if its task is
not between the test of the flag and the receipt of a packet, and none if its token is set too and
its task is not past the test of the token. -/
theorem requests_after_flag_le (hs : Reachable s) {c : Connection η}
    (hc : s.connections.get? id = some c) (hf : c.inShutdown = true) {es : List ServerEvent}
    (h : s.steps? es = some t) : requestsTaken id es ≤ c.remaining := by
  induction es generalizing s c with
  | nil => exact Nat.zero_le _
  | cons e es ih =>
    obtain ⟨u, hu, h⟩ := Option.bind_eq_some_iff.mp h
    obtain ⟨d, hd, hmoves⟩ := (step?_eq_some_iff.mp hu).moves hs.tracked hc
    obtain ⟨hdf, hle⟩ := hmoves.remaining_le hf
    have hrest : requestsTaken id es ≤ d.remaining :=
      ih (hs.trans (.single ⟨e, hu⟩)) hd hdf h
    calc
      requestsTaken id (e :: es) = e.taken id + requestsTaken id es := List.sum_cons
      _ ≤ d.remaining + e.taken id := by omega
      _ ≤ c.remaining := hle

/-- A stop is past the only connection, and one more request of it reaches a handler: the task was
past its tests when the stop began, and its packet was queued. -/
theorem request_follows_shutdown :
    ∃ (s t : Server Unit) (es : List ServerEvent) (stop : Stop) (c : Connection Unit),
      Reachable s ∧ s.stops.get? 0 = some stop ∧ stop.phase = .lingering ∧
      s.connections.get? 1 = some c ∧ c.inShutdown = true ∧
      s.steps? es = some t ∧ requestsTaken 1 es = 1 ∧ t.phase? 1 = some (.handling () "x") := by
  let new : Server Unit :=
    { listener := ⟨0, some "/run/fsidd.sock"⟩
      handlers := (∅ : HandlerTable Unit).insert "PING" () }
  let before : List ServerEvent :=
    [.beginServe, .serve 0 .enters, .serve 0 .marks, .serve 0 .polls, .serve 0 (.accepts 5),
      .serve 0 .tracks, .serve 0 .spawns, .connection 1 .tests, .connection 1 .polls,
      .beginStop false .zero, .stop 0 .marks, .stop 0 .notifies, .stop 0 .requests,
      .stop 0 (.closes .removed), .serve 0 .polls, .serve 0 .leaves, .serve 0 .notifies,
      .stop 0 (.waits .registers), .stop 0 (.waits .checks), .stop 0 .lists, .stop 0 .flags,
      .stop 0 (.shuts (.ok ()))]
  let es : List ServerEvent := [.connection 1 (.receives ⟨#[112, 105, 110, 103, 32, 120]⟩)]
  have hrun : (new.steps? before).any (fun s =>
      (s.stops.get? 0).any (fun stop => decide (stop.phase = .lingering)) &&
      (s.connections.get? 1).any (·.inShutdown) &&
      (s.steps? es).any fun t => (t.phase? 1).any fun p => p.argument? == some "x") = true := by
    decide +kernel
  simp only [Option.any_eq_true, Bool.and_eq_true, decide_eq_true_eq] at hrun
  obtain ⟨s, hs, ⟨⟨stop, hstop, hp⟩, c, hc, hf⟩, t, ht, p, hphase, hhandling⟩ := hrun
  refine ⟨s, t, es, stop, c, ⟨_, _, steps_of_steps? hs⟩, hstop, hp, hc, hf, ht, rfl, ?_⟩
  rw [hphase]
  cases p with
  | handling handler argument =>
    have hargument := Option.some.inj (beq_iff_eq.mp hhandling)
    rw [← hargument]
  | _ => cases hhandling

end Server

end FsidRegistry
