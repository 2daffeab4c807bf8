import FsidRegistry.Cache.Call
import FsidRegistry.Store.Scripted

/-!
Calls of the cache at work: a worker carries one call forward over a shared cache and a scripted store,
a step at a time, and tells when it has to wait for the clock.
-/

namespace FsidRegistry

/-- What workers share. -/
structure Backend where
  cache : Cache
  store : ScriptedStore

/-- A cache without pairs over a store. -/
def Backend.start (enabled : Bool) (store : ScriptedStore) : Backend := ⟨.empty enabled, store⟩

/-- A call at work, and the store call it is in the middle of, with the instant at which that ends. -/
structure Worker where
  call : Call
  inFlight : Option (Disturbance × Instant) := none

/-- A worker's surroundings: the clock and the cancellation token of its request. -/
structure Surroundings where
  now : Instant
  cancelled : Bool

namespace Worker

/-- The worker after one step, what it shares, and its surroundings; nothing if it has to wait or is
done. Pauses are drawn from their backoff by `draw`. -/
def step? (draw : Retry.Backoff → Nat) (at_ : Surroundings) (w : Worker) (b : Backend) :
    Option (Worker × Backend × Surroundings) :=
  let move (e : CallEvent) (b : Backend) (at_ : Surroundings) :=
    (w.call.step? b.cache e).map fun (call, cache) =>
      (({ call } : Worker), { b with cache }, at_)
  match w.call.pending? with
  | some q =>
    match w.inFlight with
    | none =>
      let (d, store) := b.store.begin q
      some ({ w with inFlight := some (d, at_.now + d.takes) }, { b with store }, at_)
    | some (d, due) =>
      if due ≤ at_.now then
        let (answer, store) := b.store.finish d q
        let at_ := { at_ with cancelled := at_.cancelled || d.cancels }
        let bound := match w.call.run with
          | some run => draw run.backoff
          | none => 0
        move (.answered q answer at_.now bound at_.cancelled) { b with store } at_
      else none
  | none =>
    match w.call.phase with
    | .looking => move (.looks at_.now) b at_
    | .keepingFsid _ | .keepingPath _ => move .keeps b at_
    | .pausing wake =>
      if wake ≤ at_.now then move (.timerFires at_.now) b at_
      else if at_.cancelled then move .cancellationSeen b at_
      else none
    | _ => none

/-- The instant that a waiting worker waits for. -/
def dueAt? (w : Worker) : Option Instant :=
  match w.inFlight, w.call.phase with
  | some (_, due), _ => some due
  | none, .pausing wake => some wake
  | none, _ => none

/-- Carries a call on until it ends, while the clock jumps to what it waits for, for at most `fuel`
steps. -/
def runAlone (draw : Retry.Backoff → Nat) :
    Nat → Surroundings → Worker → Backend → Worker × Backend × Surroundings
  | 0, at_, w, b => (w, b, at_)
  | fuel + 1, at_, w, b =>
    match w.step? draw at_ b with
    | some (w, b, at_) => runAlone draw fuel at_ w b
    | none =>
      match w.dueAt? with
      | some due => runAlone draw fuel { at_ with now := max at_.now due } w b
      | none => (w, b, at_)

end Worker

end FsidRegistry
