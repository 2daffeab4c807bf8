import FsidRegistry.Dictionary
import FsidRegistry.Server.Tracker

/-!
# Waiting for a tracker to change

Those who wait for the tracker of a server register first, then look, then park.  Those who change the
tracker do so in one step and tell the waiting in another, and not all of them tell.  In between,
anything can happen, but nobody sleeps until something that holds, unless somebody is about to tell.

* `Awaited`, `Change`, `Change.meets_of_holds`: what is waited for, and which changes can bring it about.
* `Watch.Next`, `Watch.Attended.next`: the argument, for anything that uses a tracker.  A step either
  wakes everyone, or it takes back nothing that is about to be told, brings nothing about that is not
  about to be told, and puts nobody to sleep until something that holds.
* `Vigil`: a tracker with any calls and any number of those who wait.  `Vigil.step?_next`: it makes such
  steps, so that `Vigil.Reachable.attended` holds of it.
* `Vigil.leaves_of_awake`: who is awake and waits for something that holds can leave.
-/

namespace FsidRegistry

/-! ## Waiting -/

/-- What one can wait for. -/
inductive Awaited
  /-- No accept loop runs. -/
  | noLoop
  /-- No connection is live. -/
  | noConnection
deriving DecidableEq

def Awaited.holds (t : Tracker) : Awaited → Bool
  | .noLoop => !t.listening
  | .noConnection => t.live.isEmpty

/-- Someone who waits. -/
structure Waiter where
  awaited : Awaited
  wait : Wait
deriving DecidableEq

/-- What a notification does to someone who waits. -/
def Waiter.notify (x : Waiter) : Waiter := { x with wait := x.wait.notify }

theorem Waiter.notify_ne_asleep (x : Waiter) (a : Awaited) : x.notify ≠ ⟨a, .parked false⟩ := by
  obtain ⟨b, w⟩ := x
  intro h
  injection h with _ h
  cases w <;> cases h

/-- Who falls asleep has looked in vain. -/
theorem Wait.eq_false_of_step? {condition : Bool} {w : Wait} {e : Wait.Event}
    (h : w.step? condition e = some (some (.parked false))) : condition = false := by
  unfold Wait.step? at h
  split at h
  · cases h
  · split at h
    · cases h
    · rename_i hc
      exact Bool.eq_false_iff.mpr hc
  · cases h
  · cases h

/-! ## Changes -/

/-- A change of a tracker of which those who wait are told. -/
inductive Change
  | untracks (id : ConnectionId)
  | stopsListening
  | beginsShutdown
deriving DecidableEq

/-- The tracker after a change. -/
def Change.apply (t : Tracker) : Change → Tracker
  | .untracks id => t.untrack id
  | .stopsListening => t.stopListening
  | .beginsShutdown => t.beginShutdown

/-- Whether a change can bring something about. -/
def Change.meets : Change → Awaited → Bool
  | .untracks _, .noConnection | .stopsListening, .noLoop => true
  | _, _ => false

theorem Change.meets_of_holds {t : Tracker} {change : Change} {a : Awaited}
    (h : a.holds (change.apply t) = true) : a.holds t = true ∨ change.meets a = true := by
  cases change with
  | untracks id =>
    cases a with
    | noLoop => exact Or.inl h
    | noConnection => exact Or.inr rfl
  | stopsListening =>
    cases a with
    | noLoop => exact Or.inr rfl
    | noConnection => exact Or.inl h
  | beginsShutdown => cases a <;> exact Or.inl h

/-- A loop that is entered brings nothing about. -/
theorem Awaited.holds_of_listening {t : Tracker} {a : Awaited}
    (h : a.holds { t with listening := true } = true) : a.holds t = true := by
  cases a with
  | noLoop => cases h
  | noConnection => exact h

/-- Nor does a connection that is tracked. -/
theorem Awaited.holds_of_live {t : Tracker} {id : ConnectionId} {a : Awaited}
    (h : a.holds { t with live := t.live ++ [id] } = true) : a.holds t = true := by
  cases a with
  | noLoop => exact h
  | noConnection =>
    have hnil : t.live ++ [id] = [] := List.isEmpty_iff.mp h
    cases (List.append_eq_nil_iff.mp hnil).2

/-! ## The argument -/

/-- What there is to know of those who use a tracker. -/
structure Watch where
  tracker : Tracker
  /-- Someone sleeps until it holds. -/
  asleep : Awaited → Prop
  /-- Someone who may have brought it about is about to tell. -/
  due : Awaited → Prop

namespace Watch

variable {w v : Watch}

/-- Nobody sleeps until something that holds, unless somebody is about to tell. -/
def Attended (w : Watch) : Prop := ∀ a, w.asleep a → a.holds w.tracker = true → w.due a

/-- What a step does to those who use a tracker. -/
inductive Next (w v : Watch) : Prop
  | wakes (h : ∀ a, ¬ v.asleep a)
  | works (kept : ∀ a, w.due a → v.due a)
      (news : ∀ a, a.holds v.tracker = true → a.holds w.tracker = true ∨ v.due a)
      (looked : ∀ a, v.asleep a → w.asleep a ∨ a.holds v.tracker = false)

theorem Attended.next (h : w.Attended) (hn : w.Next v) : v.Attended := by
  intro a hasleep hholds
  cases hn with
  | wakes hnone => exact absurd hasleep (hnone a)
  | works kept news looked =>
    -- Whoever sleeps until something that holds slept before: it had not been seen to hold.
    rcases looked a hasleep with hw | hfalse
    · rcases news a hholds with ha | hdue
      · exact kept a (h a hw ha)
      · exact hdue
    · rw [hfalse] at hholds
      cases hholds

end Watch

/-! ## Any calls, and any number of those who wait -/

/-- A tracker that many use. -/
structure Vigil where
  tracker : Tracker := {}
  /-- Those who wait. -/
  waiters : Dictionary Nat Waiter := ∅
  /-- The calls that have changed the tracker and have not told yet. -/
  calls : Dictionary Nat Change := ∅

namespace Vigil

/-- A step of one of those who use the tracker. -/
inductive Event
  /-- A loop asks to be entered. -/
  | startsListening
  /-- A connection asks to be tracked. -/
  | tracks (id : ConnectionId)
  /-- A call changes the tracker. -/
  | changes (call : Nat) (change : Change)
  /-- A call that has changed the tracker tells those who wait. -/
  | notifies (call : Nat)
  /-- Someone comes to wait. -/
  | comes (waiter : Nat) (awaited : Awaited)
  | waits (waiter : Nat) (event : Wait.Event)
  /-- Someone gives up. -/
  | givesUp (waiter : Nat)

/-- The vigil after a step, if it can be made. -/
def step? (v : Vigil) : Event → Option Vigil
  | .startsListening => some { v with tracker := v.tracker.startListening?.getD v.tracker }
  | .tracks id => some { v with tracker := (v.tracker.track? id).getD v.tracker }
  | .changes call change =>
    match v.calls.get? call with
    | none => some
      { v with tracker := change.apply v.tracker, calls := v.calls.insert call change }
    | some _ => none
  | .notifies call => (v.calls.get? call).map fun _ =>
      { v with waiters := v.waiters.map Waiter.notify, calls := v.calls.erase call }
  | .comes n awaited =>
    match v.waiters.get? n with
    | none => some { v with waiters := v.waiters.insert n ⟨awaited, .registering⟩ }
    | some _ => none
  | .waits n event =>
    (v.waiters.get? n).bind fun x => (x.wait.step? (x.awaited.holds v.tracker) event).map fun
      | some wait => { v with waiters := v.waiters.insert n { x with wait } }
      | none => { v with waiters := v.waiters.erase n }
  | .givesUp n => some { v with waiters := v.waiters.erase n }

/-- The vigil after a list of steps, if they can be made in that order. -/
def steps? (v : Vigil) : List Event → Option Vigil
  | [] => some v
  | e :: es => (v.step? e).bind (·.steps? es)

/-- What a new tracker can become. -/
def Reachable (v : Vigil) : Prop := ∃ es, steps? {} es = some v

/-- Nobody is about to tell. -/
def IsQuiet (v : Vigil) : Prop := ∀ call, v.calls.get? call = none

/-- The one who waits can leave by its own steps, having seen what it waits for. -/
def Leaves (v : Vigil) (n : Nat) : Prop :=
  ∃ (es : List Wait.Event) (w : Vigil), v.steps? (es.map (.waits n)) = some w ∧
    w.waiters.get? n = none

def watch (v : Vigil) : Watch where
  tracker := v.tracker
  asleep a := ∃ n, v.waiters.get? n = some ⟨a, .parked false⟩
  due a := ∃ call change, v.calls.get? call = some change ∧ change.meets a = true

variable {v w : Vigil} {n : Nat} {x : Waiter}

/-- A step that leaves the calls alone. -/
theorem watch_next_of_calls (hcalls : w.calls = v.calls)
    (hholds : ∀ a : Awaited, a.holds w.tracker = true → a.holds v.tracker = true)
    (hasleep : ∀ a m, w.waiters.get? m = some ⟨a, .parked false⟩ →
      v.waiters.get? m = some ⟨a, .parked false⟩ ∨ a.holds w.tracker = false) :
    v.watch.Next w.watch := by
  refine .works (fun a h => ?_) (fun a h => Or.inl (hholds a h)) fun a h => ?_
  · obtain ⟨call, change, hc, hm⟩ := h
    exact ⟨call, change, by rw [hcalls, hc], hm⟩
  · obtain ⟨m, hm⟩ := h
    exact (hasleep a m hm).imp_left fun hm => ⟨m, hm⟩

/-- A step in which someone comes, or moves on. -/
theorem watch_next_of_insert (hx : ∀ a, x = ⟨a, .parked false⟩ → a.holds v.tracker = false) :
    v.watch.Next (watch { v with waiters := v.waiters.insert n x }) := by
  refine watch_next_of_calls rfl (fun _ h => h) fun a m hm => ?_
  rw [Dictionary.get?_insert] at hm
  split at hm
  · exact Or.inr (hx a (Option.some.inj hm))
  · exact Or.inl hm

/-- A step in which someone leaves. -/
theorem watch_next_of_erase : v.watch.Next (watch { v with waiters := v.waiters.erase n }) := by
  refine watch_next_of_calls rfl (fun _ h => h) fun a m hm => ?_
  rw [Dictionary.get?_erase] at hm
  split at hm
  · cases hm
  · exact Or.inl hm

theorem watch_next_of_changes {call : Nat} {change : Change} (hnew : v.calls.get? call = none) :
    v.watch.Next
      (watch { v with tracker := change.apply v.tracker, calls := v.calls.insert call change }) := by
  refine .works (fun a h => ?_) (fun a h => ?_) fun a h => Or.inl h
  · obtain ⟨m, c, hc, hm⟩ := h
    have hne : call ≠ m := by
      intro he
      rw [← he, hnew] at hc
      cases hc
    exact ⟨m, c, by rw [Dictionary.get?_insert, if_neg hne, hc], hm⟩
  · refine (Change.meets_of_holds h).imp_right fun hm => ?_
    exact ⟨call, change, by rw [Dictionary.get?_insert, if_pos rfl], hm⟩

/-- **What a step does to those who use the tracker.** -/
theorem step?_next {e : Event} (h : v.step? e = some w) : v.watch.Next w.watch := by
  cases e with
  | startsListening =>
    obtain rfl := Option.some.inj h
    refine watch_next_of_calls rfl (fun a ha => ?_) fun a m hm => Or.inl hm
    unfold Tracker.startListening? at ha
    split at ha
    · exact ha
    · exact Awaited.holds_of_listening ha
  | tracks id =>
    obtain rfl := Option.some.inj h
    refine watch_next_of_calls rfl (fun a ha => ?_) fun a m hm => Or.inl hm
    unfold Tracker.track? at ha
    split at ha
    · exact ha
    · exact Awaited.holds_of_live ha
  | changes call change =>
    rw [step?] at h
    split at h <;> cases h
    exact watch_next_of_changes ‹_›
  | notifies call =>
    obtain ⟨change, -, rfl⟩ := Option.map_eq_some_iff.mp h
    refine .wakes fun a ha => ?_
    obtain ⟨n, hn⟩ := ha
    rw [Dictionary.get?_map] at hn
    obtain ⟨x, -, hx⟩ := Option.map_eq_some_iff.mp hn
    exact x.notify_ne_asleep a hx
  | comes n awaited =>
    rw [step?] at h
    split at h <;> cases h
    exact watch_next_of_insert (by rintro a ⟨⟩)
  | waits n event =>
    obtain ⟨x, -, h⟩ := Option.bind_eq_some_iff.mp h
    obtain ⟨o, ho, h⟩ := Option.map_eq_some_iff.mp h
    cases o with
    | none =>
      cases h
      exact watch_next_of_erase
    | some wait =>
      cases h
      refine watch_next_of_insert fun a hx => ?_
      injection hx with ha hw
      rw [hw, ha] at ho
      exact Wait.eq_false_of_step? ho
  | givesUp n =>
    obtain rfl := Option.some.inj h
    exact watch_next_of_erase

theorem attended_of_steps? {es : List Event} (h : v.steps? es = some w) (hv : v.watch.Attended) :
    w.watch.Attended := by
  induction es generalizing v with
  | nil =>
    cases h
    exact hv
  | cons e es ih =>
    obtain ⟨u, hu, h⟩ := Option.bind_eq_some_iff.mp h
    exact ih h (hv.next (step?_next hu))

/-- **Nobody sleeps until something that holds, unless somebody is about to tell**, whatever has been
done. -/
theorem Reachable.attended (h : v.Reachable) : v.watch.Attended := by
  obtain ⟨es, h⟩ := h
  refine attended_of_steps? h fun a ha => ?_
  obtain ⟨n, hn⟩ := ha
  cases hn

/-! ## Leaving -/

variable {a : Awaited}

theorem step?_waits (event : Wait.Event) {wait next : Wait}
    (hx : v.waiters.get? n = some ⟨a, wait⟩)
    (h : wait.step? (a.holds v.tracker) event = some (some next)) :
    v.step? (.waits n event) = some { v with waiters := v.waiters.insert n ⟨a, next⟩ } := by
  rw [step?, hx, Option.bind_some, h, Option.map_some]

theorem Leaves.of_step {event : Wait.Event} (h : v.step? (.waits n event) = some w)
    (hw : w.Leaves n) : v.Leaves n := by
  obtain ⟨es, u, hes, hu⟩ := hw
  exact ⟨event :: es, u, by rw [List.map_cons, steps?, h, Option.bind_some, hes], hu⟩

theorem leaves_of_checking (woken : Bool) (hx : v.waiters.get? n = some ⟨a, .checking woken⟩)
    (hholds : a.holds v.tracker = true) : v.Leaves n := by
  refine ⟨[.checks], { v with waiters := v.waiters.erase n }, ?_, ?_⟩
  · rw [List.map_singleton, steps?, step?, hx, Option.bind_some, Wait.step?, if_pos hholds]
    rfl
  · rw [Dictionary.get?_erase, if_pos rfl]

theorem leaves_of_registering (hx : v.waiters.get? n = some ⟨a, .registering⟩)
    (hholds : a.holds v.tracker = true) : v.Leaves n := by
  refine .of_step (step?_waits .registers hx rfl) (leaves_of_checking false ?_ hholds)
  rw [Dictionary.get?_insert, if_pos rfl]

theorem leaves_of_woken (hx : v.waiters.get? n = some ⟨a, .parked true⟩)
    (hholds : a.holds v.tracker = true) : v.Leaves n := by
  refine .of_step (step?_waits .wakes hx rfl) (leaves_of_registering ?_ hholds)
  rw [Dictionary.get?_insert, if_pos rfl]

/-- Who is awake and waits for something that holds registers once more, if need be, looks and leaves. -/
theorem leaves_of_awake (hx : v.waiters.get? n = some x)
    (hholds : x.awaited.holds v.tracker = true) (hawake : x.wait ≠ .parked false) : v.Leaves n := by
  obtain ⟨a, wait⟩ := x
  cases wait with
  | registering => exact leaves_of_registering hx hholds
  | checking woken => exact leaves_of_checking woken hx hholds
  | parked woken =>
    cases woken with
    | false => exact absurd rfl hawake
    | true => exact leaves_of_woken hx hholds

end Vigil

end FsidRegistry
