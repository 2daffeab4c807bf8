import FsidRegistry.Cache.Worker
import FsidRegistry.Proofs.Cache.Attempt

/-!
# Calls over a store that never fails

A worker that nobody disturbs, over a memory store, carries its call to an end that depends only on
the list of paths that the store has issued.  It looks into the cache, makes one attempt if it finds
nothing there, and keeps what the attempt has found.

* `Worker.Runs`: a number of steps of a worker while its surroundings stay as they are.
* `Worker.runs_looks_hit`, `Worker.runs_looks_miss`, `Worker.runs_attempt`, `Worker.runs_keeps`: the
  stages of a call.
* `Worker.runs_miss`: a call that finds nothing in the cache comes to what its attempt comes to.
* `Worker.runs_to_end`: every call ends as `Resolved` says.
-/

namespace FsidRegistry

/-- What the workers share when the store is in memory and nobody disturbs it. -/
structure Backend.Holds (b : Backend) (paths : List String) : Prop where
  store : ∃ m : MemoryStore, b.store.store = .memory m ∧ m.Holds paths
  script : b.store.script = []
  cache : b.cache.Within (Numbered paths)

theorem Backend.Holds.nodup {b : Backend} {paths : List String} (hb : b.Holds paths) :
    paths.Nodup := by
  obtain ⟨m, _, hm⟩ := hb.store
  exact hm.nodup

theorem Backend.Holds.length_le {b : Backend} {paths : List String} (hb : b.Holds paths) :
    paths.length ≤ issuable := by
  obtain ⟨m, _, hm⟩ := hb.store
  exact hm.length_le

/-- What workers share holds one list only. -/
theorem Backend.Holds.unique {b : Backend} {paths after : List String} (hb : b.Holds paths)
    (hb' : b.Holds after) : paths = after := by
  obtain ⟨m, hm, hh⟩ := hb.store
  obtain ⟨m', hm', hh'⟩ := hb'.store
  obtain rfl : m = m' := by
    rw [hm] at hm'
    cases hm'
    rfl
  exact hh.unique hh'

/-- The cache after an attempt that ended with `outcome`. -/
def Cache.keepFound (cache : Cache) : Except StoreError Pair → Cache
  | .ok pair => cache.keep pair.1 pair.2
  | .error _ => cache

theorem Cache.Within.keepFound {good : Pair → Prop} {cache : Cache} (h : cache.Within good)
    {outcome : Except StoreError Pair} (hp : ∀ pair, outcome = .ok pair → good pair) :
    (cache.keepFound outcome).Within good := by
  cases outcome with
  | ok pair => exact (h.keepFsid (hp pair rfl)).keepPath (hp pair rfl)
  | error e => exact h

/-- The store after an attempt, with what the attempt has asked. -/
def Attempt.over (a : Attempt) (s : ScriptedStore) : ScriptedStore :=
  ⟨.memory a.store, [], (a.asked.map Query.text).reverse ++ s.log⟩

/-- What the workers share after an attempt that has settled a call. -/
def Backend.afterAttempt (b : Backend) (a : Attempt) : Backend :=
  ⟨b.cache.keepFound a.outcome, a.over b.store⟩

namespace Worker

variable {draw : Retry.Backoff → Nat} {at_ : Surroundings} {w : Worker} {b : Backend}

/-- A worker makes `n` steps while its surroundings stay as they are. -/
def Runs (draw : Retry.Backoff → Nat) (at_ : Surroundings) :
    Nat → Worker × Backend → Worker × Backend → Prop
  | 0, x, y => x = y
  | n + 1, x, y => ∃ z : Worker × Backend,
    x.1.step? draw at_ x.2 = some (z.1, z.2, at_) ∧ Runs draw at_ n z y

theorem Runs.trans {n m : Nat} {x y z : Worker × Backend} (h : Runs draw at_ n x y)
    (g : Runs draw at_ m y z) : Runs draw at_ (n + m) x z := by
  induction n generalizing x with
  | zero =>
    rw [Nat.zero_add]
    exact h ▸ g
  | succ n ih =>
    obtain ⟨u, hu, h⟩ := h
    rw [Nat.succ_add]
    exact ⟨u, hu, ih h⟩

theorem Runs.single {x y : Worker × Backend}
    (h : x.1.step? draw at_ x.2 = some (y.1, y.2, at_)) : Runs draw at_ 1 x y :=
  ⟨y, h, rfl⟩

/-- The worker of a call. -/
def ofCall (request : CacheRequest) (policy : Retry.Policy) (run : Option (Retry.Run Pair))
    (phase : CallPhase) : Worker :=
  { call := ⟨request, policy, run, phase⟩ }

/-! ### Stages of a call -/

variable {request : CacheRequest} {policy : Retry.Policy} {run : Option (Retry.Run Pair)}

theorem runs_looks_hit {pair : Pair} (hc : request.cached? b.cache = some pair) :
    Runs draw at_ 1 (ofCall request policy run .looking, b)
      (ofCall request policy run (.finished (.ok (some pair))), b) := by
  refine Runs.single ?_
  simp only [step?, ofCall, Call.pending?, Call.step?, hc, Option.map_some]

/-- A look into the cache that finds nothing starts the retried operation. -/
theorem runs_looks_miss (draw : Retry.Backoff → Nat) (at_ : Surroundings) (policy : Retry.Policy)
    (run : Option (Retry.Run Pair)) (hc : request.cached? b.cache = none) :
    Runs draw at_ 1 (ofCall request policy run .looking, b)
      ({ call := (ofCall request policy run .looking).call.withRun (.start policy at_.now) }, b) := by
  refine Runs.single ?_
  simp only [step?, ofCall, Call.pending?, Call.step?, hc, Option.map_some]

/-- The retried operation of a call after its start. -/
def started (policy : Retry.Policy) (now : Instant) : Retry.Run Pair :=
  ⟨now + policy.deadline.nanos, policy.backoff, 1, .attempting⟩

theorem start_eq_started {now : Instant} (h : now + policy.deadline.nanos < clockEnd) :
    Retry.Run.start policy now = started policy now := by
  unfold Retry.Run.start Instant.after
  rw [if_pos h]
  rfl

theorem runs_keeps {pair : Pair} :
    Runs draw at_ 2 (ofCall request policy run (.keepingFsid pair), b)
      (ofCall request policy run (.finished (.ok (some pair))),
        { b with cache := b.cache.keep pair.1 pair.2 }) := by
  refine Runs.trans (m := 1) (y := (ofCall request policy run (.keepingPath pair), { b with
    cache := b.cache.keepFsid pair.1 pair.2 })) (Runs.single ?_) (Runs.single ?_)
  · simp only [step?, ofCall, Call.pending?, Call.step?, Option.map_some]
  · simp only [step?, ofCall, Call.pending?, Call.step?, Option.map_some, Cache.keep]

/-- A question is begun in one step and answered in the next. -/
theorem runs_asks {phase : CallPhase} {q : Query} {m m' : MemoryStore} {answer : Answer q}
    {call : Call} (hq : (ofCall request policy run phase).call.pending? = some q)
    (hm : b.store.store = .memory m) (hs : b.store.script = [])
    (ha : MemoryStore.source.ask q m = (answer, m'))
    (hstep : ∀ draw, (ofCall request policy run phase).call.step? b.cache
      (.answered q answer at_.now draw at_.cancelled) = some (call, b.cache)) :
    Runs draw at_ 2 (ofCall request policy run phase, b)
      ({ call }, { b with store := ⟨.memory m', [], q.text :: b.store.log⟩ }) := by
  let asking : Worker := { ofCall request policy run phase with inFlight := some ({}, at_.now) }
  let logged : Backend := { b with store := ⟨.memory m, [], q.text :: b.store.log⟩ }
  have hbegin : b.store.begin q = ({}, logged.store) := by
    rw [ScriptedStore.begin, hs, hm]
    rfl
  have hfinish : logged.store.finish {} q = (answer, ⟨.memory m', [], q.text :: b.store.log⟩) := by
    have hask : Backing.source.ask q (.memory m) = (answer, .memory m') := by
      show ((MemoryStore.source.ask q m).1, Backing.memory (MemoryStore.source.ask q m).2) = _
      rw [ha]
    show ((Backing.source.ask q (.memory m)).1,
      { logged.store with store := (Backing.source.ask q (.memory m)).2 }) = _
    rw [hask]
  refine Runs.trans (m := 1) (y := (asking, logged)) (Runs.single ?_) (Runs.single ?_)
  · simp only [step?, hq]
    dsimp only [ofCall]
    rw [hbegin]
    rfl
  · simp only [step?, asking, hq]
    rw [hfinish]
    dsimp only
    rw [if_pos (Nat.le_refl at_.now), Bool.or_false]
    exact congrArg (Option.map _) (hstep _)

variable {phase : CallPhase} {operation : Retry.Run Pair} {m : MemoryStore}

/-- The retried operation after an attempt that settled it. -/
def settled (operation : Retry.Run Pair) (outcome : Except StoreError Pair) : Retry.Run Pair :=
  { operation with phase := .finished (outcome.mapError .store) }

/-- A call after an attempt that is not retried, whatever pause was drawn. -/
theorem attemptEnded_of_settles {outcome : Except StoreError Pair}
    (ho : ∀ e, outcome = .error e → e.isRetryable = false) (now : Instant) (draw : Nat)
    (cancelled : Bool) :
    (ofCall request policy (some operation) phase).call.attemptEnded outcome now draw cancelled =
      (ofCall request policy (some (settled operation outcome))
        (Call.phaseOf request (settled operation outcome).phase)).call := by
  dsimp only [ofCall, Call.attemptEnded, Call.withRun, Retry.Run.attemptEnded, Retry.verdict]
  cases outcome with
  | ok pair => rfl
  | error e =>
    dsimp only
    rw [ho e rfl]
    rfl

theorem step?_of_settles {outcome : Except StoreError Pair} {q : Query} {answer : Answer q}
    {cache : Cache} {now : Instant} {draw : Nat} {cancelled : Bool}
    (ho : ∀ e, outcome = .error e → e.isRetryable = false)
    (h : (ofCall request policy (some operation) phase).call.Step cache
      (.answered q answer now draw cancelled)
      ((ofCall request policy (some operation) phase).call.attemptEnded outcome now draw cancelled)
      cache) :
    (ofCall request policy (some operation) phase).call.step? cache
        (.answered q answer now draw cancelled) =
      some ((ofCall request policy (some (settled operation outcome))
        (Call.phaseOf request (settled operation outcome).phase)).call, cache) := by
  rw [h.step?, attemptEnded_of_settles ho now draw cancelled]

/-- An attempt that settles its request, from its first question to its last answer. -/
theorem runs_attempt (draw : Retry.Backoff → Nat) (at_ : Surroundings) (policy : Retry.Policy)
    (operation : Retry.Run Pair) (hm : b.store.store = .memory m) (hs : b.store.script = [])
    (ha : (request.attempt m).Settles) :
    ∃ n ≤ 4, Runs draw at_ n (ofCall request policy (some operation) .opening, b)
      (ofCall request policy (some (settled operation (request.attempt m).outcome))
          (Call.phaseOf request (settled operation (request.attempt m).outcome).phase),
        { b with store := (request.attempt m).over b.store }) := by
  let c : Call := (ofCall request policy (some operation) .opening).call
  rcases hfirst : MemoryStore.source.ask request.opening m with ⟨e | value, m'⟩
  case ok =>
    rw [CacheRequest.attempt_of_ok request hfirst] at ha ⊢
    refine ⟨2, by decide, runs_asks rfl hm hs hfirst fun draw => step?_of_settles ha ?_⟩
    exact .ends (c := c) (.ok value) at_.now draw at_.cancelled rfl fun e he => by cases he
  cases hf : request.followUp? e with
  | none =>
    rw [CacheRequest.attempt_of_error request hfirst hf] at ha ⊢
    refine ⟨2, by decide, runs_asks rfl hm hs hfirst fun draw => step?_of_settles ha ?_⟩
    refine .ends (c := c) (.error e) at_.now draw at_.cancelled rfl fun e' he => ?_
    cases he
    exact hf
  | some next =>
    rcases hsecond : MemoryStore.source.ask next m' with ⟨answer, m''⟩
    rw [CacheRequest.attempt_of_followUp request hfirst hf hsecond] at ha ⊢
    have hopens : Runs draw at_ 2 (ofCall request policy (some operation) .opening, b)
        (ofCall request policy (some operation) (.following e next),
          { b with store := ⟨.memory m', [], request.opening.text :: b.store.log⟩ }) :=
      runs_asks rfl hm hs hfirst fun draw =>
        Call.Step.step? (.follows (c := c) e next at_.now draw at_.cancelled rfl hf)
    refine ⟨2 + 2, by decide, hopens.trans
      (runs_asks rfl rfl rfl hsecond fun draw => step?_of_settles ha ?_)⟩
    exact .concludes e next answer at_.now draw at_.cancelled rfl

/-! ### To the end -/

/-- A call that finds nothing in the cache comes to what its attempt comes to. -/
theorem runs_miss (draw : Retry.Backoff → Nat) (at_ : Surroundings)
    (hm : b.store.store = .memory m) (hs : b.store.script = [])
    (ha : (request.attempt m).Settles) (hc : request.cached? b.cache = none)
    (hnow : at_.now + policy.deadline.nanos < clockEnd) :
    ∃ n run, n ≤ 7 ∧ Runs draw at_ n ({ call := .begin policy request }, b)
      (ofCall request policy run (.finished (request.answer (request.attempt m).outcome)),
        b.afterAttempt (request.attempt m)) := by
  have hlooks : Runs draw at_ 1 (ofCall request policy none .looking, b)
      (ofCall request policy (some (started policy at_.now)) .opening, b) := by
    have h := runs_looks_miss draw at_ policy none hc
    rw [start_eq_started hnow] at h
    exact h
  obtain ⟨n, hn, hattempt⟩ :=
    runs_attempt draw at_ policy (started policy at_.now) hm hs ha
  have hruns := hlooks.trans hattempt
  unfold Backend.afterAttempt
  cases ho : (request.attempt m).outcome with
  | ok pair =>
    rw [ho] at hruns
    exact ⟨1 + n + 2, _, by omega, hruns.trans runs_keeps⟩
  | error e =>
    rw [ho] at hruns
    exact ⟨1 + n, _, by omega, hruns⟩

theorem holds_afterAttempt {paths after : List String} (hb : b.Holds paths)
    (hr : Resolved paths request (request.answer (request.attempt m).outcome) after)
    (hm : (request.attempt m).store.Holds after) :
    (b.afterAttempt (request.attempt m)).Holds after := by
  refine ⟨⟨_, rfl, hm⟩, rfl, (hb.cache.mono fun _ hn => hr.grows hn).keepFound fun pair ho => ?_⟩
  rw [ho] at hr
  exact hr.numbered

/-- **Over a store that never fails every call ends as the list of paths says**, and leaves what it
shares in line with the list after it. -/
theorem runs_to_end (draw : Retry.Backoff → Nat) (at_ : Surroundings) {paths : List String}
    (hb : b.Holds paths)
    (hnow : at_.now + policy.deadline.nanos < clockEnd) :
    ∃ n result after run b', n ≤ 7 ∧
      Runs draw at_ n ({ call := .begin policy request }, b)
        (ofCall request policy run (.finished result), b') ∧
      Resolved paths request result after ∧ b'.Holds after := by
  cases hc : request.cached? b.cache with
  | some pair =>
    obtain ⟨hn, hp⟩ := hb.cache.cached hc
    exact ⟨1, _, paths, none, b, by omega, runs_looks_hit hc, .found pair hn hp, hb⟩
  | none =>
    obtain ⟨m, hm, hh⟩ := hb.store
    obtain ⟨ha, after, hr, hafter⟩ := hh.resolves request
    obtain ⟨n, run, hn, hruns⟩ := runs_miss draw at_ hm hb.script ha hc hnow
    exact ⟨n, _, after, run, _, hn, hruns, hr, holds_afterAttempt hb hr hafter⟩

end Worker

end FsidRegistry
