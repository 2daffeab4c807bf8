import FsidRegistry.Proofs.Cache.Worker

/-!
# A cache may be left out

An enabled cache and a disabled one work over two copies of one memory store.  The same calls are
made on both, one after the other, and between the calls somebody else allocates paths on both
stores.  Nothing that is asked can tell which of the two caches is the enabled one.

The store takes no pair back, so a kept pair never goes stale: it is always one that the store has
issued (`Backend.Holds`), and an attempt for such a pair finds it and leaves the store as it is
(`MemoryStore.Holds.attempt_of_numbered`).  This is what the disabled cache does where the enabled
one answers at once.

* `Backend.call_of_hit`, `Backend.call_of_miss`, `Backend.call_of_late`: a call carried to its end.
* `Beside`, `Beside.call`, `Beside.peerAllocates`: the two stay in line, one operation at a time.
* `cache_is_transparent`: the answers, the stores and the questions, over all sequences.
-/

namespace FsidRegistry

/-! ## Operations -/

/-- A call on a cache, with the surroundings in which it is made. -/
structure CacheCall where
  request : CacheRequest
  policy : Retry.Policy
  at_ : Surroundings

/-- What is done with a cache, or beside it. -/
inductive CacheOp
  | calls (call : CacheCall)
  /-- Somebody else allocates a path on the store. -/
  | peerAllocates (path : String)

namespace Backend

/-- An empty cache over a memory store. -/
def onMemory (m : MemoryStore) (enabled : Bool) : Backend := ⟨.empty enabled, { store := .memory m }⟩

/-- The same with an empty log. -/
def opened (b : Backend) : Backend := { b with store := b.store.takeLog.2 }

/-- Carries a call on by itself.  The log after it has the questions of this call only. -/
def call (draw : Retry.Backoff → Nat) (fuel : Nat) (b : Backend) (c : CacheCall) :
    CallPhase × Backend :=
  let (w, b, _) := Worker.runAlone draw fuel c.at_ { call := .begin c.policy c.request } b.opened
  (w.call.phase, b)

/-- Somebody else allocates a path on the store. -/
def peerAllocates (b : Backend) (path : String) : Backend :=
  { b with store := { b.store with store := (Backing.source.ask (.allocate path) b.store.store).2 } }

/-- What is shared after an operation. -/
def perform (draw : Retry.Backoff → Nat) (fuel : Nat) (b : Backend) : CacheOp → Backend
  | .calls c => (b.call draw fuel c).2
  | .peerAllocates path => b.peerAllocates path

/-- What is shared after a list of operations. -/
def after (draw : Retry.Backoff → Nat) (fuel : Nat) (b : Backend) (ops : List CacheOp) : Backend :=
  ops.foldl (perform draw fuel) b

end Backend

/-! ## Calls carried to their end -/

/-- A call is not carried on from here. -/
def CallPhase.IsOver : CallPhase → Prop
  | .finished _ | .faulted _ => True
  | _ => False

namespace Worker

variable {draw : Retry.Backoff → Nat} {at_ : Surroundings} {w : Worker} {b b' : Backend}
  {request : CacheRequest} {policy : Retry.Policy} {run : Option (Retry.Run Pair)}
  {phase : CallPhase} {fuel n : Nat}

theorem runAlone_of_isOver (h : phase.IsOver) :
    runAlone draw fuel at_ (ofCall request policy run phase) b =
      (ofCall request policy run phase, b, at_) := by
  cases fuel with
  | zero => rfl
  | succ fuel => cases phase <;> first | rfl | cases h

theorem runAlone_of_runs (h : Runs draw at_ n (w, b) (ofCall request policy run phase, b'))
    (hp : phase.IsOver) (hn : n ≤ fuel) :
    runAlone draw fuel at_ w b = (ofCall request policy run phase, b', at_) := by
  induction n generalizing w b fuel with
  | zero =>
    cases h
    exact runAlone_of_isOver hp
  | succ n ih =>
    obtain ⟨fuel, rfl⟩ := Nat.exists_eq_add_of_lt hn
    obtain ⟨⟨v, between⟩, hstep, h⟩ := h
    rw [runAlone, hstep]
    exact ih h (Nat.le_of_succ_le_succ hn)

end Worker

namespace Backend

variable {draw : Retry.Backoff → Nat} {fuel : Nat} {b b' : Backend} {c : CacheCall}
  {paths : List String} {m : MemoryStore}

theorem call_of_runs {n : Nat} {run : Option (Retry.Run Pair)} {phase : CallPhase}
    (h : Worker.Runs draw c.at_ n ({ call := .begin c.policy c.request }, b.opened)
      (Worker.ofCall c.request c.policy run phase, b')) (hp : phase.IsOver) (hn : n ≤ fuel) :
    b.call draw fuel c = (phase, b') := by
  rw [call, Worker.runAlone_of_runs h hp hn]
  rfl

/-- A call that finds a pair in the cache asks nothing. -/
theorem call_of_hit {pair : Pair} (hc : c.request.cached? b.cache = some pair) (hf : 1 ≤ fuel) :
    b.call draw fuel c = (.finished (.ok (some pair)), b.opened) := by
  have hruns : Worker.Runs draw c.at_ 1 ({ call := .begin c.policy c.request }, b.opened)
      (Worker.ofCall c.request c.policy none (.finished (.ok (some pair))), b.opened) :=
    Worker.runs_looks_hit hc
  exact call_of_runs hruns trivial hf

/-- A call that finds nothing in the cache comes to what its attempt comes to. -/
theorem call_of_miss (hm : b.store.store = .memory m) (hs : b.store.script = [])
    (ha : (c.request.attempt m).Settles) (hc : c.request.cached? b.cache = none)
    (hnow : c.at_.now + c.policy.deadline.nanos < clockEnd) (hf : 7 ≤ fuel) :
    b.call draw fuel c = (.finished (c.request.answer (c.request.attempt m).outcome),
      b.opened.afterAttempt (c.request.attempt m)) := by
  have hopened : b.opened.store.store = .memory m := hm
  obtain ⟨n, run, hn, hruns⟩ := Worker.runs_miss draw c.at_ hopened hs ha hc hnow
  exact call_of_runs hruns trivial (Nat.le_trans hn hf)

/-- A call that finds nothing in the cache and whose deadline the clock cannot show fails for good,
before it asks anything. -/
theorem call_of_late (hc : c.request.cached? b.cache = none)
    (hnow : ¬ c.at_.now + c.policy.deadline.nanos < clockEnd) (hf : 1 ≤ fuel) :
    b.call draw fuel c = (.faulted .instantOverflow, b.opened) := by
  have hmiss : c.request.cached? b.opened.cache = none := hc
  have hlate : c.at_.now.after c.policy.deadline = .error .instantOverflow := if_neg hnow
  have hlooks := Worker.runs_looks_miss draw c.at_ c.policy none hmiss
  unfold Retry.Run.start at hlooks
  rw [hlate] at hlooks
  have hruns : Worker.Runs draw c.at_ 1 ({ call := .begin c.policy c.request }, b.opened)
      (Worker.ofCall c.request c.policy
        (some ⟨c.at_.now, c.policy.backoff, 0, .faulted .instantOverflow⟩)
        (.faulted .instantOverflow), b.opened) := hlooks
  exact call_of_runs hruns trivial hf

theorem Holds.opened (hb : b.Holds paths) : b.opened.Holds paths := ⟨hb.store, hb.script, hb.cache⟩

end Backend

/-! ## Two caches side by side -/

theorem Cache.keepFound_enabled (cache : Cache) (outcome : Except StoreError Pair) :
    (cache.keepFound outcome).enabled = cache.enabled := by
  cases outcome with
  | error e => rfl
  | ok pair =>
    cases he : cache.enabled <;> simp [keepFound, keep, keepPath, keepFsid, he]

theorem CacheRequest.cached?_of_disabled {cache : Cache} (h : cache.enabled = false)
    (request : CacheRequest) : request.cached? cache = none := by
  cases request <;> simp [cached?, Cache.fsidOf?, Cache.pathOf?, h]

/-- An enabled cache beside a disabled one: both are in line with the list of paths, and so is the
store that both have a copy of. -/
structure Beside (paths : List String) (cached plain : Backend) : Prop where
  left : cached.Holds paths
  right : plain.Holds paths
  store : cached.store.store = plain.store.store
  disabled : plain.cache.enabled = false

/-- How a call on the enabled cache compares with the same call on the disabled one: the stores after
it are equal, it asks all the questions or none, and it returns the same result.  The call returns
if its deadline is an instant of the clock. -/
structure CacheCall.Agrees (c : CacheCall) (cached plain : CallPhase × Backend) : Prop where
  store : cached.2.store.store = plain.2.store.store
  asked : cached.2.store.log = plain.2.store.log ∨ cached.2.store.log = []
  result : ∀ result, plain.1 = .finished result → cached.1 = .finished result
  returns : c.at_.now + c.policy.deadline.nanos < clockEnd → ∃ result, plain.1 = .finished result

namespace Beside

variable {draw draw' : Retry.Backoff → Nat} {fuel : Nat} {paths : List String}
  {cached plain : Backend}

/-- A call whose deadline the clock cannot show asks no store. -/
theorem call_of_late (h : Beside paths cached plain) (hf : 7 ≤ fuel) {c : CacheCall}
    (hnow : ¬ c.at_.now + c.policy.deadline.nanos < clockEnd) :
    c.Agrees (cached.call draw fuel c) (plain.call draw' fuel c) ∧
      Beside paths (cached.call draw fuel c).2 (plain.call draw' fuel c).2 := by
  have hf : 1 ≤ fuel := by omega
  have hbeside : Beside paths cached.opened plain.opened :=
    ⟨h.left.opened, h.right.opened, h.store, h.disabled⟩
  rw [Backend.call_of_late (CacheRequest.cached?_of_disabled h.disabled c.request) hnow hf]
  cases hc : c.request.cached? cached.cache with
  | some pair =>
    rw [Backend.call_of_hit hc hf]
    exact ⟨⟨h.store, .inl rfl, fun _ he => (by cases he), fun hn => absurd hn hnow⟩, hbeside⟩
  | none =>
    rw [Backend.call_of_late hc hnow hf]
    exact ⟨⟨h.store, .inl rfl, fun _ he => (by cases he), fun hn => absurd hn hnow⟩, hbeside⟩

/-- A hit is what the disabled cache finds by asking. -/
theorem call_of_hit (h : Beside paths cached plain) (hf : 7 ≤ fuel) {c : CacheCall}
    (hnow : c.at_.now + c.policy.deadline.nanos < clockEnd) {pair : Pair}
    (hc : c.request.cached? cached.cache = some pair) :
    c.Agrees (cached.call draw fuel c) (plain.call draw' fuel c) ∧
      Beside paths (cached.call draw fuel c).2 (plain.call draw' fuel c).2 := by
  obtain ⟨m, hm, hh⟩ := h.right.store
  -- The store has issued the pair, so an attempt finds it and leaves the store as it is.
  obtain ⟨hn, hp⟩ := h.left.cache.cached hc
  obtain ⟨asked, hattempt⟩ := hh.attempt_of_numbered hn hp
  have ha : (c.request.attempt m).Settles := (hh.resolves c.request).1
  have hstore : cached.store.store = .memory m := h.store.trans hm
  rw [Backend.call_of_hit hc (by omega), Backend.call_of_miss hm h.right.script ha
    (CacheRequest.cached?_of_disabled h.disabled _) hnow hf, hattempt]
  have hkept : (plain.cache.keepFound (.ok pair)).Within (Numbered paths) :=
    h.right.cache.keepFound fun found ho => by cases ho; exact hn
  exact ⟨⟨hstore, .inr rfl, fun _ he => he, fun _ => ⟨_, rfl⟩⟩, h.left.opened,
    ⟨⟨m, rfl, hh⟩, rfl, hkept⟩, hstore, (plain.cache.keepFound_enabled _).trans h.disabled⟩

/-- **A call on the enabled cache comes to what the same call on the disabled one comes to**, and
both caches stay in line with the store. -/
theorem call (draw draw' : Retry.Backoff → Nat) (h : Beside paths cached plain) (hf : 7 ≤ fuel)
    (c : CacheCall) :
    c.Agrees (cached.call draw fuel c) (plain.call draw' fuel c) ∧
      ∃ after, Beside after (cached.call draw fuel c).2 (plain.call draw' fuel c).2 := by
  by_cases hnow : c.at_.now + c.policy.deadline.nanos < clockEnd
  case neg =>
    obtain ⟨hagrees, hbeside⟩ := h.call_of_late hf hnow
    exact ⟨hagrees, paths, hbeside⟩
  cases hc : c.request.cached? cached.cache with
  | some pair =>
    obtain ⟨hagrees, hbeside⟩ := h.call_of_hit hf hnow hc
    exact ⟨hagrees, paths, hbeside⟩
  | none =>
    -- Both caches make the same attempt.
    obtain ⟨m, hm, hh⟩ := h.right.store
    obtain ⟨ha, after, hr, hafter⟩ := hh.resolves c.request
    rw [Backend.call_of_miss (h.store.trans hm) h.left.script ha hc hnow hf,
      Backend.call_of_miss hm h.right.script ha (CacheRequest.cached?_of_disabled h.disabled _) hnow
        hf]
    exact ⟨⟨rfl, .inl rfl, fun _ he => he, fun _ => ⟨_, rfl⟩⟩, after,
      Worker.holds_afterAttempt h.left.opened hr hafter,
      Worker.holds_afterAttempt h.right.opened hr hafter, rfl,
      (plain.cache.keepFound_enabled _).trans h.disabled⟩

/-- What somebody else allocates takes no pair back. -/
theorem peerAllocates (h : Beside paths cached plain) (path : String) :
    ∃ after, Beside after (cached.peerAllocates path) (plain.peerAllocates path) := by
  obtain ⟨m, hm, hh⟩ := h.right.store
  obtain ⟨after, ha⟩ := hh.asked (.allocate path)
  have hgrows : ∀ pair, Numbered paths pair → Numbered after pair := by
    intro pair hn
    rw [ha.grows]
    exact hn.append _
  have hstore : ∀ b : Backend, b.store.store = .memory m →
      (b.peerAllocates path).store.store =
        .memory (MemoryStore.source.ask (.allocate path) m).2 := by
    intro b hb
    show (Backing.source.ask (.allocate path) b.store.store).2 = _
    rw [hb]
    rfl
  have hleft := hstore cached (h.store.trans hm)
  have hright := hstore plain hm
  exact ⟨after, ⟨⟨_, hleft, ha.holds⟩, h.left.script, h.left.cache.mono hgrows⟩,
    ⟨⟨_, hright, ha.holds⟩, h.right.script, h.right.cache.mono hgrows⟩, hleft.trans hright.symm,
    h.disabled⟩

/-- The two caches stay in line with the store over a list of operations. -/
theorem after (draw draw' : Retry.Backoff → Nat) (h : Beside paths cached plain) (hf : 7 ≤ fuel)
    (ops : List CacheOp) :
    ∃ paths', Beside paths' (cached.after draw fuel ops) (plain.after draw' fuel ops) := by
  induction ops generalizing paths cached plain with
  | nil => exact ⟨paths, h⟩
  | cons op ops ih =>
    cases op with
    | calls c =>
      obtain ⟨_, _, hbeside⟩ := h.call draw draw' hf c
      exact ih hbeside
    | peerAllocates path =>
      obtain ⟨_, hbeside⟩ := h.peerAllocates path
      exact ih hbeside

end Beside

theorem beside_onMemory {m : MemoryStore} {paths : List String} (hm : m.Holds paths) :
    Beside paths (.onMemory m true) (.onMemory m false) :=
  ⟨⟨⟨m, rfl, hm⟩, rfl, Cache.within_empty true⟩, ⟨⟨m, rfl, hm⟩, rfl, Cache.within_empty false⟩, rfl,
    rfl⟩

/-- **No call can tell an enabled cache from a disabled one**, whatever calls were made on both before
it and whatever others have allocated on their stores: it returns the same result, leaves equal
stores, and asks the store what it would ask without the cache, or nothing. -/
theorem cache_is_transparent {m : MemoryStore} {paths : List String} (hm : m.Holds paths)
    (draw draw' : Retry.Backoff → Nat) {fuel : Nat} (hf : 7 ≤ fuel) (before : List CacheOp)
    (c : CacheCall) :
    c.Agrees (((Backend.onMemory m true).after draw fuel before).call draw fuel c)
      (((Backend.onMemory m false).after draw' fuel before).call draw' fuel c) := by
  obtain ⟨_, hbeside⟩ := (beside_onMemory hm).after draw draw' hf before
  exact (hbeside.call draw draw' hf c).1

/-- Somebody else allocates a path, which a lookup by fsid brings into the cache.  An allocation of the
path is a hit then; without the cache it meets a conflict and asks again. -/
theorem cache_is_transparent_after_lookup :
    ∃ (before : List CacheOp) (c : CacheCall) (cached plain : CallPhase × Backend),
      cached = ((Backend.onMemory .empty true).after (fun _ => 0) 7 before).call (fun _ => 0) 7 c ∧
      plain = ((Backend.onMemory .empty false).after (fun _ => 0) 7 before).call (fun _ => 0) 7 c ∧
      cached.2.store.log = [] ∧
      plain.2.store.log = ["get_fsid /a", "allocate_fsid /a"] ∧
      c.Agrees cached plain ∧ ∃ result, plain.1 = .finished result := by
  let before : List CacheOp := [.peerAllocates "/a", .calls ⟨.pathOf .first, {}, ⟨0, false⟩⟩]
  let c : CacheCall := ⟨.allocate "/a", {}, ⟨0, false⟩⟩
  have hagrees := cache_is_transparent MemoryStore.holds_empty (fun _ => 0) (fun _ => 0)
    (Nat.le_refl 7) before c
  exact ⟨before, c, _, _, rfl, rfl, by decide +kernel, by decide +kernel, hagrees,
    hagrees.returns (by decide +kernel)⟩

end FsidRegistry
