import FsidRegistry.Proofs.Server.Live
import FsidRegistry.Proofs.Server.Registration
import FsidRegistry.Proofs.Server.Vigil

/-!
# No wake-up is lost

In a server, the stops wait for the tracker to change: first until no accept loop runs, then until no
connection is left.  Loops and connections leave the tracker in one step and tell the stops in another.

* `Server.Sleeps`, `Server.IsDue`: who sleeps, and what is about to be told.
* `Server.Step.watch_next`: a step of a server is one of those after which nobody sleeps until something
  that holds, unless somebody is about to tell.
* `Server.Reachable.attended`: so it is in every server that has come about.
* `no_wake_up_is_lost`: the same of any use of a tracker, and what it comes to in a server.
-/

namespace FsidRegistry

/-! ## The waiting of a server -/

/-- Who waits in a stop, if it waits. -/
def StopPhase.waiter? : StopPhase → Option Waiter
  | .awaitingLoops wait => some ⟨.noLoop, wait⟩
  | .draining wait _ => some ⟨.noConnection, wait⟩
  | _ => none

theorem StopPhase.waiter?_turnTo (force : Bool) (ids : List ConnectionId) :
    (Stop.turnTo force ids).waiter? = none := by
  cases ids with
  | nil => cases force <;> rfl
  | cons id rest => rfl

theorem Stop.waiter?_notify (stop : Stop) :
    stop.notify.phase.waiter? = stop.phase.waiter?.map Waiter.notify := by
  obtain ⟨force, timeout, errors, phase⟩ := stop
  cases phase <;> rfl

/-- Whether those who wait are told by a step. -/
def ServerEvent.tells : ServerEvent → Bool
  | .serve _ .notifies | .announces _ | .stop _ .notifies => true
  | _ => false

namespace Server

variable {η : Type} {s t : Server η} {a : Awaited}

/-- A stop sleeps until something holds. -/
def Sleeps (s : Server η) (a : Awaited) : Prop :=
  ∃ n stop, s.stops.get? n = some stop ∧ stop.phase.waiter? = some ⟨a, .parked false⟩

/-- A task that may have brought something about is about to tell. -/
def IsDue (s : Server η) : Awaited → Prop
  | .noLoop => ∃ loop ending, s.serves.get? loop = some (.notifying ending)
  | .noConnection => ∃ id, s.phase? id = some .notifying

def watch (s : Server η) : Watch := ⟨s.tracker, s.Sleeps, s.IsDue⟩

theorem Sleeps.of_setStop {n : Nat} {stop : Stop} (h : (s.setStop n stop).Sleeps a) :
    stop.phase.waiter? = some ⟨a, .parked false⟩ ∨ s.Sleeps a := by
  obtain ⟨m, x, hx, hwait⟩ := h
  rw [setStop, Dictionary.get?_insert] at hx
  split at hx
  · cases hx
    exact Or.inl hwait
  · exact Or.inr ⟨m, x, hx, hwait⟩

theorem not_sleeps_notifyAll : ¬ s.notifyAll.Sleeps a := by
  intro h
  obtain ⟨n, stop, hn, hwait⟩ := h
  rw [notifyAll_stops, Dictionary.get?_map] at hn
  obtain ⟨stop, -, rfl⟩ := Option.map_eq_some_iff.mp hn
  rw [Stop.waiter?_notify] at hwait
  obtain ⟨x, -, hx⟩ := Option.map_eq_some_iff.mp hwait
  exact x.notify_ne_asleep a hx

theorem Step.not_sleeps {e : ServerEvent} (h : Step s e t) (he : e.tells = true) :
    ¬ t.Sleeps a := by
  cases h with
  | serve loop p e t hp hstep =>
    cases hstep with
    | notifies ending => exact not_sleeps_notifyAll (s := s)
    | _ => cases he
  | announces id c hc hp => exact not_sleeps_notifyAll
  | stop n stop e t hs hstep =>
    cases hstep with
    | notifies hp =>
      intro hsleeps
      rcases hsleeps.of_setStop with hwait | hsleeps
      · cases hwait
      · exact not_sleeps_notifyAll hsleeps
    | _ => cases he
  | _ => cases he

/-- A stop that falls asleep has looked in vain. -/
theorem StopStep.looked {n : Nat} {stop : Stop} {e : StopEvent} (h : StopStep s n stop e t)
    (he : e ≠ .notifies) (hsleeps : t.Sleeps a) : s.Sleeps a ∨ a.holds t.tracker = false := by
  cases h with
  | notifies => exact absurd rfl he
  | waitsForLoops _ _ _ _ hw | waitsForConnections _ _ _ _ _ hw =>
    rcases hsleeps.of_setStop with hwait | hsleeps
    · cases hwait
      exact Or.inr (Wait.eq_false_of_step? hw)
    · exact Or.inl hsleeps
  | lists hp | cancels id rest hp =>
    refine Or.inl (hsleeps.of_setStop.resolve_left fun hwait => ?_)
    rw [StopPhase.waiter?_turnTo] at hwait
    cases hwait
  | shuts id rest outcome hp =>
    refine Or.inl (hsleeps.of_setStop.resolve_left fun hwait => ?_)
    dsimp only at hwait
    split at hwait
    · cases hwait
    · rw [StopPhase.waiter?_turnTo] at hwait
      cases hwait
  | _ => exact Or.inl (hsleeps.of_setStop.resolve_left (by rintro ⟨⟩))

theorem Step.looked {e : ServerEvent} (h : Step s e t) (he : e.tells = false)
    (hsleeps : t.Sleeps a) : s.Sleeps a ∨ a.holds t.tracker = false := by
  cases h with
  | serve loop p e t hp hstep =>
    cases hstep with
    | notifies => cases he
    | _ => exact Or.inl hsleeps
  | announces => cases he
  | beginStop => exact Or.inl (hsleeps.of_setStop.resolve_left (by rintro ⟨⟩))
  | stop n stop e t hs hstep => exact hstep.looked (by rintro rfl; cases he) hsleeps
  | _ => exact Or.inl hsleeps

/-- A loop that is about to tell does nothing else. -/
theorem Step.keeps_notifying_loop {e : ServerEvent} (hn : s.serves.Numbered) (h : Step s e t)
    (he : e.tells = false) {loop : Nat} {ending : ServeEnd}
    (hl : s.serves.get? loop = some (.notifying ending)) :
    t.serves.get? loop = some (.notifying ending) := by
  cases h with
  | beginServe =>
    have hne : s.serves.size ≠ loop := by
      intro hsize
      rw [← hsize, hn.get?_size] at hl
      cases hl
    rw [setServe_serves, Dictionary.get?_insert, if_neg hne, hl]
  | serve loop' p e t hp hstep =>
    -- The only step of a loop that is about to tell is to tell.
    have hne : loop' ≠ loop := by
      intro heq
      subst heq
      cases hp.symm.trans hl
      cases hstep
      cases he
    cases hstep <;> rw [setServe_serves, Dictionary.get?_insert, if_neg hne] <;> exact hl
  | stop n stop e t hs hstep => rw [hstep.serves.2.1, hl]
  | _ => exact hl

/-- Nor does a connection. -/
theorem Step.keeps_notifying_connection {e : ServerEvent} (ht : Tracked s) (h : Step s e t)
    (he : e.tells = false) {id : ConnectionId} (hc : s.phase? id = some .notifying) :
    t.phase? id = some .notifying := by
  obtain ⟨c, hc, hp⟩ := Option.map_eq_some_iff.mp hc
  obtain ⟨d, hd, hmoves⟩ := h.moves ht hc
  rw [phase?_of_get? hd]
  cases hmoves with
  | steps e d hstep =>
    have hleft := hstep.stays.2.1
    rw [hp] at hleft
    cases hleft
  | starts loop hcreated => cases hp.symm.trans hcreated
  | untracks huntracking => cases hp.symm.trans huntracking
  | announces => cases he
  | flags | cancels | stays => rw [← hp]

theorem Step.isDue {e : ServerEvent} (ht : Tracked s) (hn : s.serves.Numbered) (h : Step s e t)
    (he : e.tells = false) (hdue : s.IsDue a) : t.IsDue a := by
  cases a with
  | noLoop =>
    obtain ⟨loop, ending, hl⟩ := hdue
    exact ⟨loop, ending, h.keeps_notifying_loop hn he hl⟩
  | noConnection =>
    obtain ⟨id, hc⟩ := hdue
    exact ⟨id, h.keeps_notifying_connection ht he hc⟩

/-- What comes to hold by a step, its task is about to tell. -/
theorem Step.news {e : ServerEvent} (h : Step s e t) (hholds : a.holds t.tracker = true) :
    a.holds s.tracker = true ∨ t.IsDue a := by
  cases h with
  | serve loop p e t hp hstep =>
    cases hstep with
    | enters => exact Or.inl (Awaited.holds_of_listening hholds)
    | tracks => exact Or.inl (Awaited.holds_of_live hholds)
    | leaves ending =>
      cases a with
      | noLoop =>
        refine Or.inr ⟨loop, ending, ?_⟩
        rw [setServe_serves, Dictionary.get?_insert, if_pos rfl]
      | noConnection => exact Or.inl hholds
    | _ => exact Or.inl hholds
  | untracks id c hc hp =>
    cases a with
    | noLoop => exact Or.inl hholds
    | noConnection =>
      refine Or.inr ⟨id, ?_⟩
      rw [phase?_insert rfl, if_pos rfl]
  | stop n stop e t hs hstep =>
    cases hstep with
    | marks => cases a <;> exact Or.inl hholds
    | _ => exact Or.inl hholds
  | _ => exact Or.inl hholds

theorem Step.watch_next {e : ServerEvent} (ht : Tracked s) (hn : s.serves.Numbered)
    (h : Step s e t) : s.watch.Next t.watch := by
  cases he : e.tells with
  | true => exact .wakes fun a => h.not_sleeps he
  | false => exact .works (fun a => h.isDue ht hn he) (fun a => h.news) fun a => h.looked he

theorem Reachable.numbered_serves (h : Reachable s) : s.serves.Numbered := by
  obtain ⟨listener, handlers, h⟩ := h
  induction h with
  | refl => exact Dictionary.numbered_empty
  | tail _ hn ih =>
    obtain ⟨e, he⟩ := hn
    exact (step?_eq_some_iff.mp he).numbered ih

/-- **No stop sleeps until something that holds, unless a task of the server is about to tell.** -/
theorem Reachable.attended (h : Reachable s) : s.watch.Attended := by
  obtain ⟨listener, handlers, h⟩ := h
  induction h with
  | refl =>
    intro a ha
    obtain ⟨n, stop, hn, -⟩ := ha
    cases hn
  | tail hs hn ih =>
    obtain ⟨e, he⟩ := hn
    have hr : Reachable _ := ⟨listener, handlers, hs⟩
    exact ih.next ((step?_eq_some_iff.mp he).watch_next hr.tracked hr.numbered_serves)

end Server

/-! ## No wake-up is lost -/

/-- **No wake-up is lost.**  Whatever has been done to a tracker, if someone sleeps until something that
holds, then a call is between the change that can have brought it about and its notification; and if no
call is, then everyone who waits for something that holds can leave.  In a server, the stops wait, and
what they miss is about to be told by a loop that has left or by a connection that has left. -/
theorem no_wake_up_is_lost :
    (∀ v : Vigil, v.Reachable → ∀ (n : Nat) (x : Waiter), v.waiters.get? n = some x →
      x.awaited.holds v.tracker = true →
      (x.wait = .parked false → ∃ call change,
        v.calls.get? call = some change ∧ change.meets x.awaited = true) ∧
      (v.IsQuiet → v.Leaves n)) ∧
    ∀ (η : Type) (s : Server η), s.Reachable → ∀ (n : Nat) (stop : Stop),
      s.stops.get? n = some stop →
      (stop.phase = .awaitingLoops (.parked false) → s.tracker.listening = false →
        ∃ loop ending, s.serves.get? loop = some (.notifying ending)) ∧
      ∀ limit, stop.phase = .draining (.parked false) limit → s.tracker.live = [] →
        ∃ id c, s.connections.get? id = some c ∧ c.phase = .notifying := by
  refine ⟨fun v h n x hx hholds => ?_, fun η s h n stop hstop => ?_⟩
  · have hdue : x.wait = .parked false → v.watch.due x.awaited := by
      intro hwait
      refine h.attended x.awaited ⟨n, ?_⟩ hholds
      rw [hx, ← hwait]
    refine ⟨hdue, fun hquiet => Vigil.leaves_of_awake hx hholds fun hwait => ?_⟩
    obtain ⟨call, change, hc, -⟩ := hdue hwait
    rw [hquiet call] at hc
    cases hc
  · constructor
    · intro hp hlistening
      refine h.attended .noLoop ⟨n, stop, hstop, ?_⟩ ?_
      · rw [hp]
        rfl
      · show (!s.tracker.listening) = true
        rw [hlistening]
        rfl
    · intro limit hp hlive
      obtain ⟨id, hid⟩ := h.attended .noConnection
        ⟨n, stop, hstop, by rw [hp]; rfl⟩ (List.isEmpty_iff.mpr hlive)
      obtain ⟨c, hc, hphase⟩ := Option.map_eq_some_iff.mp hid
      exact ⟨id, c, hc, hphase⟩

/-- A connection has been untracked and a loop has left, and those who wait for it sleep until they are
told. -/
theorem no_wake_up_is_lost_before_notification :
    (∃ v w : Vigil, v.waiters.get? 0 = some ⟨.noConnection, .parked false⟩ ∧ v.tracker.live = [] ∧
      (∃ call change, v.calls.get? call = some change ∧ change.meets .noConnection = true) ∧
      v.step? (.notifies 3) = some w ∧ w.Leaves 0) ∧
    (∃ s : Server Unit, (∃ stop, s.stops.get? 0 = some stop ∧
      stop.phase = .awaitingLoops (.parked false)) ∧ s.tracker.listening = false ∧
      ∃ loop ending, s.serves.get? loop = some (.notifying ending)) ∧
    ∃ s : Server Unit, (∃ stop, s.stops.get? 0 = some stop ∧
      stop.phase = .draining (.parked false) 0) ∧ s.tracker.live = [] ∧
      ∃ id c, s.connections.get? id = some c ∧ c.phase = .notifying := by
  refine ⟨?_, ?_, ?_⟩
  · let es : List Vigil.Event :=
      [.startsListening, .tracks 7, .comes 0 .noConnection, .waits 0 .registers, .waits 0 .checks,
        .changes 3 (.untracks 7)]
    have hv : Vigil.Reachable
        ⟨{ listening := true }, (∅ : Dictionary _ _).insert 0 ⟨.noConnection, .parked false⟩,
          (∅ : Dictionary _ _).insert 3 (.untracks 7)⟩ := ⟨es, rfl⟩
    have hw : Vigil.Reachable
        ⟨{ listening := true }, (∅ : Dictionary _ _).insert 0 ⟨.noConnection, .parked true⟩, ∅⟩ :=
      ⟨es ++ [.notifies 3], rfl⟩
    refine ⟨_, _, rfl, rfl, (no_wake_up_is_lost.1 _ hv 0 _ rfl rfl).1 rfl, rfl, ?_⟩
    exact (no_wake_up_is_lost.1 _ hw 0 _ rfl rfl).2 fun _ => rfl
  · let new : Server Unit := { listener := ⟨0, none⟩ }
    let es : List ServerEvent :=
      [.beginServe, .serve 0 .enters, .serve 0 .marks, .beginStop false .zero, .stop 0 .marks,
        .stop 0 .notifies, .stop 0 .requests, .stop 0 (.closes .absent), .stop 0 (.waits .registers),
        .stop 0 (.waits .checks), .serve 0 .polls, .serve 0 .leaves]
    have hrun : (new.steps? es).any (fun s => !s.tracker.listening &&
        (s.stops.get? 0).any fun stop =>
          decide (stop.phase = .awaitingLoops (.parked false))) = true := by
      decide +kernel
    simp only [Option.any_eq_true, Bool.and_eq_true, decide_eq_true_eq, Bool.not_eq_true'] at hrun
    obtain ⟨s, hs, hlistening, stop, hstop, hp⟩ := hrun
    have h := no_wake_up_is_lost.2 Unit s ⟨_, _, Server.steps_of_steps? hs⟩ 0 stop hstop
    exact ⟨s, ⟨stop, hstop, hp⟩, hlistening, h.1 hp hlistening⟩
  · let new : Server Unit := { listener := ⟨0, none⟩ }
    let es : List ServerEvent :=
      [.beginServe, .serve 0 .enters, .serve 0 .marks, .serve 0 .polls, .serve 0 (.accepts 5),
        .serve 0 .tracks, .serve 0 .spawns, .beginStop false .zero, .stop 0 .marks, .stop 0 .notifies,
        .stop 0 .requests, .stop 0 (.closes .absent), .serve 0 .polls, .serve 0 .leaves,
        .serve 0 .notifies, .stop 0 (.waits .registers), .stop 0 (.waits .checks), .stop 0 .lists,
        .stop 0 .flags, .stop 0 (.shuts (.ok ())), .stop 0 (.lingers 0),
        .stop 0 (.waits .registers), .stop 0 (.waits .checks), .connection 1 .tests,
        .connection 1 .flags, .connection 1 .shuts, .connection 1 .cancels, .untracks 1]
    have hrun : (new.steps? es).any (fun s => decide (s.tracker.live = []) &&
        (s.stops.get? 0).any fun stop =>
          decide (stop.phase = .draining (.parked false) 0)) = true := by
      decide +kernel
    simp only [Option.any_eq_true, Bool.and_eq_true, decide_eq_true_eq] at hrun
    obtain ⟨s, hs, hlive, stop, hstop, hp⟩ := hrun
    have h := no_wake_up_is_lost.2 Unit s ⟨_, _, Server.steps_of_steps? hs⟩ 0 stop hstop
    exact ⟨s, ⟨stop, hstop, hp⟩, hlive, h.2 0 hp hlive⟩

end FsidRegistry
