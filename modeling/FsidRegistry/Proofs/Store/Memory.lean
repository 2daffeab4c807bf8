import FsidRegistry.Proofs.Dictionary
import FsidRegistry.Store.Memory

/-!
# What a memory store has issued

A memory store issues the fsids from 1 upward, so all that it ever knows is the list of the paths in
the order in which they came.

* `Numbered`: a pair of an fsid and a path, the path being at the place of a list that the fsid
  says.  In a list without repetition the pairs are one to one (`Numbered.fsid_eq_iff`).
* `Holds`: a store has issued the paths of a list, in this order, and nothing else.
* `Holds.allocate`, `Holds.fsidOf_eq_ok`, `Holds.pathOf_eq_ok` and their siblings: what such a store
  answers.
* `Holds.asked`: any question leaves a store that holds the paths and those newly issued.
-/

namespace FsidRegistry

/-- The path of a pair is at the place of a list that the fsid says, counted from 1. -/
def Numbered (paths : List String) (pair : Fsid × String) : Prop :=
  ∃ i : Nat, paths[i]? = some pair.2 ∧ pair.1.val = i + 1

theorem Fsid.ext_val {m n : Fsid} (h : m.val = n.val) : m = n := by
  cases m
  cases n
  cases h
  rfl

theorem Numbered.append {paths : List String} {pair : Fsid × String} (h : Numbered paths pair)
    (more : List String) : Numbered (paths ++ more) pair := by
  obtain ⟨i, hi, hv⟩ := h
  have hlt : i < paths.length := (List.getElem?_eq_some_iff.mp hi).1
  exact ⟨i, by rw [List.getElem?_append_left hlt, hi], hv⟩

theorem Numbered.mem {paths : List String} {pair : Fsid × String} (h : Numbered paths pair) :
    pair.2 ∈ paths := by
  obtain ⟨i, hi, _⟩ := h
  exact List.mem_of_getElem? hi

theorem Numbered.one_le {paths : List String} {pair : Fsid × String} (h : Numbered paths pair) :
    1 ≤ pair.1.val := by
  obtain ⟨i, _, hv⟩ := h
  omega

theorem Numbered.val_le {paths : List String} {pair : Fsid × String} (h : Numbered paths pair) :
    pair.1.val ≤ paths.length := by
  obtain ⟨i, hi, hv⟩ := h
  have hlt : i < paths.length := (List.getElem?_eq_some_iff.mp hi).1
  omega

theorem not_numbered_nil (pair : Fsid × String) : ¬ Numbered [] pair := by
  rintro ⟨i, hi, _⟩
  cases hi

/-- One more path gives one more pair. -/
theorem numbered_concat_iff {paths : List String} {path : String} {pair : Fsid × String} :
    Numbered (paths ++ [path]) pair ↔
      Numbered paths pair ∨ (pair.2 = path ∧ pair.1.val = paths.length + 1) := by
  constructor
  · rintro ⟨i, hi, hv⟩
    rcases Nat.lt_or_ge i paths.length with hlt | hge
    · rw [List.getElem?_append_left hlt] at hi
      exact Or.inl ⟨i, hi, hv⟩
    · rw [List.getElem?_append_right hge, List.getElem?_singleton] at hi
      split at hi
      · exact Or.inr ⟨(Option.some.inj hi).symm, by omega⟩
      · cases hi
  · rintro (h | ⟨hp, hv⟩)
    · exact h.append [path]
    · exact ⟨paths.length, by rw [List.getElem?_concat_length, hp], hv⟩

/-- **In a list without repetition, a path has one fsid and an fsid one path.** -/
theorem Numbered.fsid_eq_iff {paths : List String} (hn : paths.Nodup) {p q : Fsid × String}
    (hp : Numbered paths p) (hq : Numbered paths q) : p.1 = q.1 ↔ p.2 = q.2 := by
  obtain ⟨i, hi, hv⟩ := hp
  obtain ⟨j, hj, hw⟩ := hq
  constructor
  · intro h
    have hij : i = j := by
      rw [h] at hv
      omega
    rw [hij, hj] at hi
    exact (Option.some.inj hi).symm
  · intro h
    have hlt : i < paths.length := (List.getElem?_eq_some_iff.mp hi).1
    have hij : i = j := (List.getElem?_inj hlt hn).mp (by rw [hi, hj, h])
    apply Fsid.ext_val
    rw [hv, hw, hij]

/-- The number of fsids that can be issued.  The largest fsid is never issued. -/
def issuable : Nat := 2147483646

/-- The question is for a pair: it names the half that the pair has. -/
def Query.IsFor (pair : Fsid × String) : Query → Prop
  | .fsidOf path | .allocate path => pair.2 = path
  | .pathOf fsid => pair.1 = fsid

theorem Query.isFor_pair (q : Query) (v : q.Value) : q.IsFor (q.pair v) := by
  cases q <;> rfl

namespace MemoryStore

variable {s : MemoryStore} {paths : List String}

/-- The store has issued the first fsids to these paths, in this order, and nothing else. -/
structure Holds (s : MemoryStore) (paths : List String) : Prop where
  nodup : paths.Nodup
  next : s.next.val = paths.length + 1
  allocations : s.allocations = paths.length
  fsids : ∀ path fsid, s.fsids.get? path = some fsid ↔ Numbered paths (fsid, path)
  paths : ∀ fsid path, s.paths.get? fsid = some path ↔ Numbered paths (fsid, path)

theorem holds_empty : empty.Holds [] where
  nodup := List.nodup_nil
  next := rfl
  allocations := rfl
  fsids _ _ := ⟨fun h => (by cases h), fun h => (not_numbered_nil _ h).elim⟩
  paths _ _ := ⟨fun h => (by cases h), fun h => (not_numbered_nil _ h).elim⟩

theorem Holds.length_le (h : s.Holds paths) : paths.length ≤ issuable := by
  have hv := h.next
  have hu := s.next.upper
  unfold issuable
  omega

/-- A store has issued one list of paths only. -/
theorem Holds.unique {after : List String} (h : s.Holds paths) (h' : s.Holds after) :
    paths = after := by
  have hnext := h.next
  have hnext' := h'.next
  have hlength : paths.length = after.length := by omega
  refine List.ext_getElem hlength fun i hi hi' => ?_
  have hle := h.length_le
  unfold issuable at hle
  let fsid : Fsid := ⟨i + 1, by omega, by omega⟩
  have hn : Numbered paths (fsid, paths[i]) := ⟨i, List.getElem?_eq_getElem hi, rfl⟩
  obtain ⟨j, hj, hv⟩ := (h'.fsids _ _).mp ((h.fsids _ _).mpr hn)
  obtain rfl : j = i := by
    dsimp only [fsid] at hv
    omega
  rw [List.getElem?_eq_getElem hi'] at hj
  exact (Option.some.inj hj).symm

/-! ### Lookups -/

/-- Every path of the list has its fsid. -/
theorem Holds.fsidOf_of_mem (h : s.Holds paths) {path : String} (hp : path ∈ paths) :
    ∃ fsid, s.fsidOf path = .ok fsid ∧ Numbered paths (fsid, path) := by
  obtain ⟨i, hi⟩ := List.getElem?_of_mem hp
  have hlt : i < paths.length := (List.getElem?_eq_some_iff.mp hi).1
  have hle := h.length_le
  unfold issuable at hle
  let fsid : Fsid := ⟨i + 1, by omega, by omega⟩
  have hnum : Numbered paths (fsid, path) := ⟨i, hi, rfl⟩
  exact ⟨fsid, by rw [fsidOf, (h.fsids path fsid).mpr hnum], hnum⟩

theorem Holds.fsidOf_eq_ok (h : s.Holds paths) {path : String} {fsid : Fsid} :
    s.fsidOf path = .ok fsid ↔ Numbered paths (fsid, path) := by
  rw [← h.fsids path fsid, fsidOf]
  split
  · rename_i f hf
    rw [hf]
    exact ⟨fun he => by cases he; rfl, fun he => by cases he; rfl⟩
  · rename_i hf
    rw [hf]
    exact ⟨fun h => (by cases h), fun h => (by cases h)⟩

theorem Holds.fsidOf_of_not_mem (h : s.Holds paths) {path : String} (hp : path ∉ paths) :
    s.fsidOf path = .error .notFound := by
  cases hf : s.fsids.get? path with
  | none => rw [fsidOf, hf]
  | some fsid => exact absurd ((h.fsids path fsid).mp hf).mem hp

theorem Holds.pathOf_eq_ok (h : s.Holds paths) {fsid : Fsid} {path : String} :
    s.pathOf fsid = .ok path ↔ Numbered paths (fsid, path) := by
  rw [← h.paths fsid path, pathOf]
  split
  · rename_i p hp
    rw [hp]
    exact ⟨fun he => by cases he; rfl, fun he => by cases he; rfl⟩
  · rename_i hp
    rw [hp]
    exact ⟨fun h => (by cases h), fun h => (by cases h)⟩

theorem pathOf_cases (s : MemoryStore) (fsid : Fsid) :
    (∃ path, s.pathOf fsid = .ok path) ∨ s.pathOf fsid = .error .notFound := by
  rw [pathOf]
  split
  · exact Or.inl ⟨_, rfl⟩
  · exact Or.inr rfl

/-! ### Allocations -/

theorem Holds.contains (h : s.Holds paths) (path : String) :
    s.fsids.contains path = true ↔ path ∈ paths := by
  rw [Dictionary.contains, Option.isSome_iff_exists]
  constructor
  · rintro ⟨fsid, hf⟩
    exact ((h.fsids path fsid).mp hf).mem
  · intro hp
    obtain ⟨fsid, _, hnum⟩ := h.fsidOf_of_mem hp
    exact ⟨fsid, (h.fsids path fsid).mpr hnum⟩

theorem Holds.size (h : s.Holds paths) : s.size = paths.length :=
  Dictionary.size_eq_of_contains h.nodup h.contains

theorem Holds.allocate_of_mem (h : s.Holds paths) {path : String} (hp : path ∈ paths) :
    s.allocate path = (.error (.conflict path), s) := by
  rw [allocate, if_pos ((h.contains path).mpr hp)]

theorem Holds.allocate_of_full (h : s.Holds paths) {path : String} (hp : path ∉ paths)
    (hl : issuable ≤ paths.length) :
    s.allocate path = (.error (.other "fsid space exhausted"), s) := by
  have hv := h.next
  unfold issuable at hl
  have hnone : s.next.next? = none := dif_neg fun hb => by omega
  rw [allocate, if_neg fun hc => hp ((h.contains path).mp hc), hnone]

/-- **A path that has no fsid gets the next one.** -/
theorem Holds.allocate (h : s.Holds paths) {path : String} (hp : path ∉ paths)
    (hl : paths.length < issuable) :
    ∃ t, s.allocate path = (.ok s.next, t) ∧ t.Holds (paths ++ [path]) := by
  have hv := h.next
  unfold issuable at hl
  have hrange : -2147483648 ≤ s.next.val + 1 ∧ s.next.val + 1 ≤ 2147483647 := by omega
  have hsome : s.next.next? = some ⟨s.next.val + 1, hrange.1, hrange.2⟩ := dif_pos hrange
  have hfresh : ∀ p : String, ¬ Numbered paths (s.next, p) := by
    intro p hnum
    have := hnum.val_le
    dsimp only at this
    omega
  have hnew : ¬ s.fsids.contains path = true := fun hc => hp ((h.contains path).mp hc)
  -- Neither map has the new key yet, so no pair is overwritten.
  refine ⟨_, by rw [MemoryStore.allocate, if_neg hnew, hsome], ?_⟩
  refine ⟨?_, ?_, ?_, fun p f => ?_, fun f p => ?_⟩
  · refine List.nodup_append.mpr ⟨h.nodup, by simp, fun a ha b hb he => hp ?_⟩
    rw [← List.mem_singleton.mp hb, ← he]
    exact ha
  · show s.next.val + 1 = ((paths ++ [path]).length : Int) + 1
    rw [List.length_append, List.length_singleton, hv]
    omega
  · show s.allocations + 1 = (paths ++ [path]).length
    rw [List.length_append, List.length_singleton, h.allocations]
  · rw [numbered_concat_iff, Dictionary.get?_insert]
    by_cases hpath : path = p
    · rw [if_pos hpath]
      constructor
      · intro he
        obtain rfl := Option.some.inj he
        exact Or.inr ⟨hpath.symm, hv⟩
      · rintro (hnum | ⟨_, hf⟩)
        · exact absurd (hpath ▸ hnum.mem) hp
        · exact congrArg some (Fsid.ext_val (hv.trans hf.symm))
    · rw [if_neg hpath, h.fsids p f]
      exact ⟨Or.inl, fun ho => ho.resolve_right fun he => hpath he.1.symm⟩
  · rw [numbered_concat_iff, Dictionary.get?_insert]
    by_cases hf : s.next = f
    · rw [if_pos hf]
      constructor
      · intro he
        obtain rfl := Option.some.inj he
        exact Or.inr ⟨rfl, hf ▸ hv⟩
      · rintro (hnum | ⟨he, _⟩)
        · exact absurd (hf ▸ hnum) (hfresh p)
        · exact congrArg some he.symm
    · rw [if_neg hf, h.paths f p]
      refine ⟨Or.inl, fun ho => ho.resolve_right fun he => hf ?_⟩
      exact Fsid.ext_val (hv.trans he.2.symm)

/-! ### Questions -/

/-- The pairs that a question makes the store issue. -/
def newlyIssued (s : MemoryStore) : Query → List (Fsid × String)
  | .allocate path => match (s.allocate path).1 with
    | .ok fsid => [(fsid, path)]
    | .error _ => []
  | .fsidOf _ | .pathOf _ => []

/-- What a question leaves behind and what it is answered. -/
structure Asked (s : MemoryStore) (paths : List String) (q : Query) (after : List String) :
    Prop where
  grows : after = paths ++ (s.newlyIssued q).map Prod.snd
  holds : (source.ask q s).2.Holds after
  issued : ∀ pair ∈ s.newlyIssued q, Numbered after pair
  ok : ∀ v, (source.ask q s).1 = .ok v → Numbered after (q.pair v)
  notFound : ∀ e, (source.ask q s).1 = .error e → e.isNotFound = true →
    ∀ pair, q.IsFor pair → ¬ Numbered paths pair

theorem Holds.asked_fsidOf (h : s.Holds paths) (path : String) :
    s.Asked paths (.fsidOf path) paths where
  grows := (List.append_nil _).symm
  holds := h
  issued _ hp := (List.not_mem_nil hp).elim
  ok _ hv := h.fsidOf_eq_ok.mp hv
  notFound e he _ := by
    rintro ⟨f, p⟩ rfl hnum
    have hok : s.fsidOf p = .ok f := h.fsidOf_eq_ok.mpr hnum
    rw [show (source.ask (.fsidOf p) s).1 = s.fsidOf p from rfl, hok] at he
    cases he

theorem Holds.asked_pathOf (h : s.Holds paths) (fsid : Fsid) :
    s.Asked paths (.pathOf fsid) paths where
  grows := (List.append_nil _).symm
  holds := h
  issued _ hp := (List.not_mem_nil hp).elim
  ok _ hv := h.pathOf_eq_ok.mp hv
  notFound e he _ := by
    rintro ⟨f, p⟩ rfl hnum
    have hok : s.pathOf f = .ok p := h.pathOf_eq_ok.mpr hnum
    rw [show (source.ask (.pathOf f) s).1 = s.pathOf f from rfl, hok] at he
    cases he

theorem Holds.asked_allocate_of_error (h : s.Holds paths) {path : String} {e : StoreError}
    (ha : s.allocate path = (.error e, s)) (he : e.isNotFound = false) :
    s.Asked paths (.allocate path) paths := by
  have hask : source.ask (.allocate path) s = (.error e, s) := ha
  have hnew : s.newlyIssued (.allocate path) = [] := by rw [newlyIssued, ha]
  refine ⟨by rw [hnew, List.map_nil, List.append_nil], by rw [hask]; exact h, fun _ hp => ?_,
    fun v hv => ?_, fun e' he' hnf => ?_⟩
  · rw [hnew] at hp
    cases hp
  · rw [hask] at hv
    cases hv
  · rw [hask] at he'
    cases he'
    rw [he] at hnf
    cases hnf

theorem Holds.asked_allocate (h : s.Holds paths) (path : String) :
    ∃ after, s.Asked paths (.allocate path) after := by
  by_cases hp : path ∈ paths
  · exact ⟨paths, h.asked_allocate_of_error (h.allocate_of_mem hp) rfl⟩
  by_cases hl : issuable ≤ paths.length
  · exact ⟨paths, h.asked_allocate_of_error (h.allocate_of_full hp hl) rfl⟩
  obtain ⟨t, ha, ht⟩ := h.allocate hp (Nat.lt_of_not_le hl)
  have hask : source.ask (.allocate path) s = (.ok s.next, t) := ha
  have hnew : s.newlyIssued (.allocate path) = [(s.next, path)] := by rw [newlyIssued, ha]
  have hnum : Numbered (paths ++ [path]) (s.next, path) :=
    numbered_concat_iff.mpr (Or.inr ⟨rfl, h.next⟩)
  refine ⟨paths ++ [path], by rw [hnew]; rfl, by rw [hask]; exact ht, ?_, fun v hv => ?_,
    fun e he => ?_⟩
  · rw [hnew]
    rintro pair hmem
    rw [List.mem_singleton.mp hmem]
    exact hnum
  · rw [hask] at hv
    cases hv
    exact hnum
  · rw [hask] at he
    cases he

/-- **Any question leaves a store that holds the paths and those that it has newly issued**, and is
answered by pairs of the list. -/
theorem Holds.asked (h : s.Holds paths) (q : Query) : ∃ after, s.Asked paths q after := by
  cases q with
  | fsidOf path => exact ⟨paths, h.asked_fsidOf path⟩
  | allocate path => exact h.asked_allocate path
  | pathOf fsid => exact ⟨paths, h.asked_pathOf fsid⟩

end MemoryStore

end FsidRegistry
