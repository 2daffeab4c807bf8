import FsidRegistry.Cache.Basic
import FsidRegistry.Retry.Run
import FsidRegistry.Store.Source

/-!
Calls of the cache, one atomic step at a time: looking into a map, asking the source, pausing between
attempts, and keeping each half of a resolved pair. Calls that run at the same time share the cache
and the source; `Call.step?` takes the cache that the call finds and returns the one it leaves.
-/

namespace FsidRegistry

/-- What is asked of the cache. -/
inductive CacheRequest
  /-- The fsid of a path, if it has one. -/
  | fsidOf (path : String)
  /-- A new fsid for a path, or the one that the store turns out to have. -/
  | allocate (path : String)
  /-- The fsid of a path, a new one if the store has none. -/
  | fsidOrAllocate (path : String)
  /-- The path of an fsid, if it was issued. -/
  | pathOf (fsid : Fsid)
deriving DecidableEq

/-- A resolved pair. -/
abbrev Pair : Type := Fsid × String

namespace CacheRequest

/-- The pair that the cache has for a request. -/
def cached? (c : Cache) : CacheRequest → Option Pair
  | .fsidOf path | .allocate path | .fsidOrAllocate path =>
    (c.fsidOf? path).map fun fsid => (fsid, path)
  | .pathOf fsid => (c.pathOf? fsid).map fun path => (fsid, path)

/-- The question that an attempt asks first. -/
def opening : CacheRequest → Query
  | .fsidOf path | .fsidOrAllocate path => .fsidOf path
  | .allocate path => .allocate path
  | .pathOf fsid => .pathOf fsid

/-- The question that an attempt asks after its first one failed with `e`. A conflict sends
an allocation to look the winner up, a missing row sends a lookup on to allocate. -/
def followUp? (e : StoreError) : CacheRequest → Option Query
  | .allocate path => if e.isConflict then some (.fsidOf path) else none
  | .fsidOrAllocate path => if e.isNotFound then some (.allocate path) else none
  | .fsidOf _ | .pathOf _ => none

/-- How an attempt ends whose second question was answered with `answer`, after the first failed with
`first`. If a conflicting row is gone again, the attempt ends with the conflict, which is retried. -/
def conclude (first : StoreError) (answer : Except StoreError Pair) :
    CacheRequest → Except StoreError Pair
  | .allocate _ =>
    match answer with
    | .error e => .error (if e.isNotFound then first else e)
    | .ok pair => .ok pair
  | _ => answer

/-- Whether a request may find nothing. -/
def mayMiss : CacheRequest → Bool
  | .fsidOf _ | .pathOf _ => true
  | .allocate _ | .fsidOrAllocate _ => false

/-- The result of a request whose attempts ended with `result`. -/
def settle (r : CacheRequest) : Except Error Pair → Except Error (Option Pair)
  | .ok pair => .ok (some pair)
  | .error (.store e) => if r.mayMiss && e.isNotFound then .ok none else .error (.store e)
  | .error e => .error e

end CacheRequest

/-- Where a call stands. -/
inductive CallPhase
  /-- About to look into the cache. -/
  | looking
  /-- The source is asked the first question of an attempt. -/
  | opening
  /-- The source is asked the second question of an attempt, after the first failed. -/
  | following (first : StoreError) (query : Query)
  /-- The next attempt is made later. -/
  | pausing (wake : Instant)
  /-- About to keep the fsid of a resolved path. -/
  | keepingFsid (pair : Pair)
  /-- About to keep the path of a resolved fsid. -/
  | keepingPath (pair : Pair)
  | finished (result : Except Error (Option Pair))
  | faulted (fault : Fault)

/-- A call of the cache. -/
structure Call where
  request : CacheRequest
  policy : Retry.Policy
  /-- The retried operation, once the source had to be asked. -/
  run : Option (Retry.Run Pair)
  phase : CallPhase

/-- What can happen next to a call. -/
inductive CallEvent
  /-- The call looks into the cache at `now`. -/
  | looks (now : Instant)
  /-- The source answers the pending question at `now`. A pause after a failed attempt is drawn by `draw`. -/
  | answered (query : Query) (answer : Answer query) (now : Instant) (draw : Nat) (cancelled : Bool)
  /-- The pause is over. -/
  | timerFires (now : Instant)
  /-- The pause is cut short. -/
  | cancellationSeen
  /-- One half of the resolved pair is kept. -/
  | keeps

namespace Call

/-- A new call. -/
def begin (policy : Retry.Policy) (request : CacheRequest) : Call := ⟨request, policy, none, .looking⟩

/-- The count of the attempts that were made. -/
def attempts (c : Call) : UInt32 := (c.run.map (·.attempts)).getD 0

/-- The question that the source is asked. -/
def pending? (c : Call) : Option Query :=
  match c.phase with
  | .opening => some c.request.opening
  | .following _ query => some query
  | _ => none

/-- The phase of a call whose retried operation stands at `p`. -/
def phaseOf (request : CacheRequest) : Retry.Phase Pair → CallPhase
  | .attempting => .opening
  | .pausing wake => .pausing wake
  | .faulted fault => .faulted fault
  | .finished (.ok pair) => .keepingFsid pair
  | .finished (.error e) => .finished (request.settle (.error e))

/-- The call with its retried operation advanced. -/
def withRun (c : Call) (run : Retry.Run Pair) : Call :=
  { c with run := some run, phase := phaseOf c.request run.phase }

/-- The call after its attempt ended. -/
def attemptEnded (c : Call) (outcome : Except StoreError Pair) (now : Instant) (draw : Nat)
    (cancelled : Bool) : Call :=
  match c.run with
  | some run => c.withRun (run.attemptEnded outcome now draw cancelled)
  | none => c

/-- The call and the cache after an event, if the event can happen. -/
def step? (c : Call) (cache : Cache) : CallEvent → Option (Call × Cache)
  | .looks now =>
    match c.phase with
    | .looking =>
      match c.request.cached? cache with
      | some pair => some ({ c with phase := .finished (.ok (some pair)) }, cache)
      | none => some (c.withRun (.start c.policy now), cache)
    | _ => none
  | .answered query answer now draw cancelled =>
    if c.pending? ≠ some query then none
    else
      let outcome := answer.map query.pair
      match c.phase with
      | .following first _ =>
        some (c.attemptEnded (c.request.conclude first outcome) now draw cancelled, cache)
      | _ =>
        match outcome with
        | .error e =>
          match c.request.followUp? e with
          | some next => some ({ c with phase := .following e next }, cache)
          | none => some (c.attemptEnded outcome now draw cancelled, cache)
        | .ok _ => some (c.attemptEnded outcome now draw cancelled, cache)
  | .timerFires now =>
    match c.phase, c.run with
    | .pausing wake, some run => if wake ≤ now then some (c.withRun run.resume, cache) else none
    | _, _ => none
  | .cancellationSeen =>
    match c.phase, c.run with
    | .pausing _, some run => some (c.withRun run.cancel, cache)
    | _, _ => none
  | .keeps =>
    match c.phase with
    | .keepingFsid (fsid, path) =>
      some ({ c with phase := .keepingPath (fsid, path) }, cache.keepFsid fsid path)
    | .keepingPath (fsid, path) =>
      some ({ c with phase := .finished (.ok (some (fsid, path))) }, cache.keepPath fsid path)
    | _ => none

end Call

end FsidRegistry
