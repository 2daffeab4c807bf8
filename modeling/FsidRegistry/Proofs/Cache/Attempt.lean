import FsidRegistry.Proofs.Cache.Step

/-!
# Attempts over a memory store

An attempt at a request asks the store one question, and a second one if the first fails in the way
that the request expects.  `CacheRequest.attempt` is the attempt as one function of the store.  Over
a store that has issued the paths of a list, and that nobody else uses meanwhile, one attempt always
settles the request: an allocation that meets a conflict finds the winner by its second question, so
no error that would be retried ever ends an attempt.

* `MemoryStore.Holds.attempt_of_numbered`: an attempt for a pair that the store has issued finds it
  and leaves the store as it is.
* `Resolved`: how a request ends over a list of paths, and the list after it.
* `MemoryStore.Holds.resolves`: every attempt ends as `Resolved` says.
-/

namespace FsidRegistry

/-- What an attempt comes to. -/
structure Attempt where
  outcome : Except StoreError Pair
  /-- The store after it. -/
  store : MemoryStore
  /-- The questions that it has asked, oldest first. -/
  asked : List Query

/-- No error that would be retried ends the attempt. -/
def Attempt.Settles (a : Attempt) : Prop := ∀ e, a.outcome = .error e → e.isRetryable = false

namespace CacheRequest

/-- An attempt at a request over a memory store. -/
def attempt (request : CacheRequest) (m : MemoryStore) : Attempt :=
  match MemoryStore.source.ask request.opening m with
  | (.ok value, m) => ⟨.ok (request.opening.pair value), m, [request.opening]⟩
  | (.error e, m) =>
    match request.followUp? e with
    | none => ⟨.error e, m, [request.opening]⟩
    | some next =>
      let (answer, m) := MemoryStore.source.ask next m
      ⟨request.conclude e (answer.map next.pair), m, [request.opening, next]⟩

/-- The result of a request that one attempt settles. -/
def answer (request : CacheRequest) (outcome : Except StoreError Pair) :
    Except Error (Option Pair) :=
  request.settle (outcome.mapError .store)

/-- The request gives a path an fsid, if it has none. -/
def Issues (path : String) : CacheRequest → Prop
  | .allocate p | .fsidOrAllocate p => p = path
  | .fsidOf _ | .pathOf _ => False

variable (request : CacheRequest) {m m' m'' : MemoryStore} {e : StoreError}

theorem attempt_of_ok {value : request.opening.Value}
    (ha : MemoryStore.source.ask request.opening m = (.ok value, m')) :
    request.attempt m = ⟨.ok (request.opening.pair value), m', [request.opening]⟩ := by
  rw [attempt, ha]

theorem attempt_of_error (ha : MemoryStore.source.ask request.opening m = (.error e, m'))
    (hf : request.followUp? e = none) :
    request.attempt m = ⟨.error e, m', [request.opening]⟩ := by
  rw [attempt, ha]
  dsimp only
  rw [hf]

theorem attempt_of_followUp {next : Query} {answer : Answer next}
    (ha : MemoryStore.source.ask request.opening m = (.error e, m'))
    (hf : request.followUp? e = some next)
    (hn : MemoryStore.source.ask next m' = (answer, m'')) :
    request.attempt m =
      ⟨request.conclude e (answer.map next.pair), m'', [request.opening, next]⟩ := by
  rw [attempt, ha]
  dsimp only
  rw [hf]
  show Attempt.mk (request.conclude e ((MemoryStore.source.ask next m').1.map next.pair))
    (MemoryStore.source.ask next m').2 _ = _
  rw [hn]

variable {request}

/-- A request that may give a path an fsid allocates, if the store does not know the path. -/
theorem attempt_of_issues {path : String} {answer : Except StoreError Fsid}
    (hr : request.Issues path) (hf : m.fsidOf path = .error .notFound)
    (ha : m.allocate path = (answer, m')) (hc : ∀ e, answer = .error e → e.isConflict = false) :
    ∃ asked, request.attempt m = ⟨answer.map fun fsid => (fsid, path), m', asked⟩ := by
  cases request with
  | fsidOf | pathOf => cases hr
  | allocate p =>
    cases hr
    cases answer with
    | ok fsid => exact ⟨_, attempt_of_ok (.allocate path) ha⟩
    | error e =>
      refine ⟨_, attempt_of_error (.allocate path) ha ?_⟩
      rw [followUp?, hc e rfl]
      rfl
  | fsidOrAllocate p =>
    cases hr
    have hfirst : MemoryStore.source.ask (.fsidOf path) m = (.error .notFound, m) :=
      congrArg (·, m) hf
    exact ⟨_, attempt_of_followUp (.fsidOrAllocate path) hfirst rfl ha⟩

end CacheRequest

/-! ## What an attempt comes to -/

/-- How a request ends over a list of paths, and the list after it. -/
inductive Resolved (paths : List String) (request : CacheRequest) :
    Except Error (Option Pair) → List String → Prop
  | found (pair : Pair) (hn : Numbered paths pair) (hp : request.IsFor pair) :
    Resolved paths request (.ok (some pair)) paths
  | missed (hm : request.mayMiss = true)
      (hp : ∀ pair, request.IsFor pair → ¬ Numbered paths pair) :
    Resolved paths request (.ok none) paths
  | allocated (path : String) (fsid : Fsid) (hr : request.Issues path) (hp : path ∉ paths)
      (hl : paths.length < issuable) (hf : fsid.val = paths.length + 1) :
    Resolved paths request (.ok (some (fsid, path))) (paths ++ [path])
  | full (path : String) (hr : request.Issues path) (hp : path ∉ paths)
      (hl : issuable ≤ paths.length) :
    Resolved paths request (.error (.store (.other "fsid space exhausted"))) paths

namespace Resolved

variable {paths after : List String} {request : CacheRequest} {pair : Pair}
  {result : Except Error (Option Pair)}

theorem grows (h : Resolved paths request result after) (hn : Numbered paths pair) :
    Numbered after pair := by
  cases h with
  | allocated path => exact hn.append [path]
  | _ => exact hn

theorem numbered (h : Resolved paths request (.ok (some pair)) after) : Numbered after pair := by
  cases h with
  | found _ hn => exact hn
  | allocated path fsid _ _ _ hf => exact numbered_concat_iff.mpr (.inr ⟨rfl, hf⟩)

end Resolved

namespace MemoryStore

variable {m : MemoryStore} {paths : List String} {request : CacheRequest}

theorem Holds.attempt_of_numbered (hm : m.Holds paths) {pair : Pair} (hn : Numbered paths pair)
    (hp : request.IsFor pair) : ∃ asked, request.attempt m = ⟨.ok pair, m, asked⟩ := by
  obtain ⟨fsid, path⟩ := pair
  have hfsid : source.ask (.fsidOf path) m = (.ok fsid, m) :=
    congrArg (·, m) (hm.fsidOf_eq_ok.mpr hn)
  cases request with
  | fsidOf p =>
    cases hp
    exact ⟨_, CacheRequest.attempt_of_ok (.fsidOf path) hfsid⟩
  | fsidOrAllocate p =>
    cases hp
    exact ⟨_, CacheRequest.attempt_of_ok (.fsidOrAllocate path) hfsid⟩
  | allocate p =>
    cases hp
    -- The path has its fsid, so the allocation fails and the second question finds it.
    have hconflict : source.ask (.allocate path) m = (.error (.conflict path), m) :=
      hm.allocate_of_mem hn.mem
    exact ⟨_, CacheRequest.attempt_of_followUp (.allocate path) hconflict rfl hfsid⟩
  | pathOf f =>
    cases hp
    have hpath : source.ask (.pathOf fsid) m = (.ok path, m) :=
      congrArg (·, m) (hm.pathOf_eq_ok.mpr hn)
    exact ⟨_, CacheRequest.attempt_of_ok (.pathOf fsid) hpath⟩

/-- What `Holds.resolves` says of one request. -/
def Resolves (m : MemoryStore) (paths : List String) (request : CacheRequest) : Prop :=
  (request.attempt m).Settles ∧ ∃ after,
    Resolved paths request (request.answer (request.attempt m).outcome) after ∧
      (request.attempt m).store.Holds after

/-- A lookup of a pair that the store has not issued finds nothing. -/
theorem Holds.resolves_of_notFound (hm : m.Holds paths)
    (ha : source.ask request.opening m = (.error .notFound, m)) (hr : request.mayMiss = true)
    (hp : ∀ pair, request.IsFor pair → ¬ Numbered paths pair) : m.Resolves paths request := by
  have hfollow : request.followUp? .notFound = none := by
    cases request <;> first | rfl | cases hr
  have hanswer : request.answer (.error .notFound) = .ok none := by
    show (if request.mayMiss && true then _ else _) = _
    rw [hr]
    rfl
  rw [Resolves, CacheRequest.attempt_of_error request ha hfollow]
  refine ⟨fun e he => ?_, paths, ?_, hm⟩
  · cases he
    rfl
  · rw [hanswer]
    exact .missed hr hp

/-- A request that may give a path an fsid does so, unless all fsids are issued. -/
theorem Holds.resolves_of_issues (hm : m.Holds paths) {path : String} (hr : request.Issues path)
    (hp : path ∉ paths) : m.Resolves paths request := by
  have hf := hm.fsidOf_of_not_mem hp
  have hmiss : request.mayMiss = false := by
    cases request <;> first | rfl | cases hr
  by_cases hl : paths.length < issuable
  · obtain ⟨m', ha, hm'⟩ := hm.allocate hp hl
    obtain ⟨asked, hattempt⟩ := CacheRequest.attempt_of_issues hr hf ha fun e he => by cases he
    rw [Resolves, hattempt]
    exact ⟨fun e he => (by cases he), _, .allocated path m.next hr hp hl hm.next, hm'⟩
  · have hl := Nat.le_of_not_lt hl
    obtain ⟨asked, hattempt⟩ := CacheRequest.attempt_of_issues hr hf (hm.allocate_of_full hp hl)
      fun e he => by cases he; rfl
    have hanswer : request.answer (.error (.other "fsid space exhausted")) =
        .error (.store (.other "fsid space exhausted")) := by
      show (if request.mayMiss && false then _ else _) = _
      rw [hmiss]
      rfl
    rw [Resolves, hattempt]
    refine ⟨fun e he => ?_, paths, ?_, hm⟩
    · cases he
      rfl
    · show Resolved paths request (request.answer (.error (.other "fsid space exhausted"))) paths
      rw [hanswer]
      exact .full path hr hp hl

/-- **One attempt over a store that has issued the paths of a list settles any request**, as
`Resolved` says. -/
theorem Holds.resolves (hm : m.Holds paths) (request : CacheRequest) : m.Resolves paths request := by
  by_cases hknown : ∃ pair, Numbered paths pair ∧ request.IsFor pair
  · obtain ⟨pair, hn, hp⟩ := hknown
    obtain ⟨asked, hattempt⟩ := hm.attempt_of_numbered hn hp
    rw [Resolves, hattempt]
    exact ⟨fun e he => (by cases he), paths, .found pair hn hp, hm⟩
  · have hnew : ∀ pair, request.IsFor pair → ¬ Numbered paths pair := fun pair hp hn =>
      hknown ⟨pair, hn, hp⟩
    have hmem : ∀ path, (∀ fsid, request.IsFor (fsid, path)) → path ∉ paths := by
      intro path hfor hp
      obtain ⟨fsid, _, hn⟩ := hm.fsidOf_of_mem hp
      exact hnew _ (hfor fsid) hn
    cases request with
    | fsidOf path =>
      exact hm.resolves_of_notFound (congrArg (·, m) (hm.fsidOf_of_not_mem (hmem path fun _ => rfl)))
        rfl hnew
    | allocate path => exact hm.resolves_of_issues rfl (hmem path fun _ => rfl)
    | fsidOrAllocate path => exact hm.resolves_of_issues rfl (hmem path fun _ => rfl)
    | pathOf fsid =>
      rcases m.pathOf_cases fsid with ⟨path, hf⟩ | hf
      · exact absurd (hm.pathOf_eq_ok.mp hf) (hnew (fsid, path) rfl)
      · exact hm.resolves_of_notFound (congrArg (·, m) hf) rfl hnew

end MemoryStore

end FsidRegistry
