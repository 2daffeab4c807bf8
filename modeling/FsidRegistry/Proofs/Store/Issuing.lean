import Mathlib.Data.Fintype.EquivFin
import FsidRegistry.Proofs.Store.Memory

/-!
# How a memory store issues its fsids

Whatever a new store is asked, it holds a list of paths (`Holds`), and the list only grows.  What its
maps and its counts have to do with each other is read off that list.

* `run`: the store after some questions.  `Holds.run`: it holds the paths that it held, and more.
* `Consistent`: the maps are inverse to each other, the fsids in use are those below the next one,
  and all counts agree.
* `Remembers`: a pair is found from both sides, whatever is asked before.
* `issues_in_order`: what every new store comes to, and what an allocation does to it.
* `exists_run_next_eq_last`: there is a run after which the store has no fsid left.
-/

namespace FsidRegistry

/-- The largest fsid.  No store issues it. -/
def Fsid.last : Fsid := ⟨2147483647, by decide, by decide⟩

/-- The fsids that are in use in a list of paths. -/
theorem exists_numbered_iff {paths : List String} {fsid : Fsid} :
    (∃ path, Numbered paths (fsid, path)) ↔ 1 ≤ fsid.val ∧ fsid.val ≤ paths.length := by
  constructor
  · rintro ⟨path, h⟩
    exact ⟨h.one_le, h.val_le⟩
  · rintro ⟨hone, hle⟩
    have hlt : fsid.val.toNat - 1 < paths.length := by omega
    refine ⟨paths[fsid.val.toNat - 1], fsid.val.toNat - 1, List.getElem?_eq_getElem hlt, ?_⟩
    dsimp only
    omega

namespace MemoryStore

variable {s : MemoryStore} {paths : List String} {path : String} {fsid : Fsid}

/-- The store after some questions, put one after another. -/
def run (s : MemoryStore) : List Query → MemoryStore
  | [] => s
  | q :: queries => run (source.ask q s).2 queries

/-- The maps of a store are inverse to each other, its fsids in use are those below the next one, and
its counts agree. -/
structure Consistent (s : MemoryStore) : Prop where
  inverse : ∀ path fsid, s.fsids.get? path = some fsid ↔ s.paths.get? fsid = some path
  inUse : ∀ fsid, s.paths.contains fsid = true ↔ 1 ≤ fsid.val ∧ fsid.val < s.next.val
  sameSize : s.paths.size = s.fsids.size
  next : s.next.val = s.size + 1
  allocations : s.allocations = s.size

/-- A pair is found from both sides, whatever is asked before. -/
def Remembers (s : MemoryStore) (path : String) (fsid : Fsid) : Prop :=
  ∀ later, (s.run later).fsidOf path = .ok fsid ∧ (s.run later).pathOf fsid = .ok path

/-- Questions add paths at the end of the list that a store holds. -/
theorem Holds.run (h : s.Holds paths) (queries : List Query) :
    ∃ more, (s.run queries).Holds (paths ++ more) := by
  induction queries generalizing s paths with
  | nil => exact ⟨[], by simpa [MemoryStore.run] using h⟩
  | cons q queries ih =>
    obtain ⟨after, ha⟩ := h.asked q
    obtain ⟨more, hm⟩ := ih ha.holds
    rw [ha.grows, List.append_assoc] at hm
    exact ⟨_, hm⟩

theorem holds_run_empty (queries : List Query) : ∃ paths, (empty.run queries).Holds paths := by
  obtain ⟨more, h⟩ := holds_empty.run queries
  exact ⟨more, by simpa using h⟩

theorem run_append (s : MemoryStore) (queries queries' : List Query) :
    s.run (queries ++ queries') = (s.run queries).run queries' := by
  induction queries generalizing s with
  | nil => rfl
  | cons q queries ih => exact ih _

/-! ### What the list of paths says -/

theorem Holds.consistent (h : s.Holds paths) : s.Consistent := by
  have hinverse : ∀ path fsid, s.fsids.get? path = some fsid ↔ s.paths.get? fsid = some path := by
    intro path fsid
    rw [h.fsids, h.paths]
  have hnext := h.next
  refine ⟨hinverse, ?_, ?_, ?_, ?_⟩
  · intro fsid
    rw [Dictionary.contains, Option.isSome_iff_exists]
    simp only [h.paths, exists_numbered_iff]
    omega
  · exact (Dictionary.size_eq_of_inverse hinverse).symm
  · rw [h.size, hnext]
  · rw [h.size, h.allocations]

theorem Holds.remembers (h : s.Holds paths) (hnum : Numbered paths (fsid, path)) :
    s.Remembers path fsid := by
  intro later
  obtain ⟨more, hm⟩ := h.run later
  exact ⟨hm.fsidOf_eq_ok.mpr (hnum.append more), hm.pathOf_eq_ok.mpr (hnum.append more)⟩

theorem Holds.next_eq_last_iff (h : s.Holds paths) : s.next = .last ↔ paths.length = issuable := by
  have hnext := h.next
  have hlast : Fsid.last.val = 2147483647 := rfl
  unfold issuable
  constructor
  · intro he
    rw [he] at hnext
    omega
  · intro hl
    apply Fsid.ext_val
    omega

/-- What an allocation comes to. -/
theorem Holds.allocate_cases (h : s.Holds paths) (path : String) :
    (path ∈ paths ∧ s.allocate path = (.error (.conflict path), s)) ∨
      (path ∉ paths ∧ s.next = .last ∧
        s.allocate path = (.error (.other "fsid space exhausted"), s)) ∨
      (path ∉ paths ∧ s.next ≠ .last ∧
        ∃ t, s.allocate path = (.ok s.next, t) ∧ t.Holds (paths ++ [path])) := by
  by_cases hp : path ∈ paths
  · exact Or.inl ⟨hp, h.allocate_of_mem hp⟩
  · refine Or.inr ?_
    by_cases hl : s.next = .last
    · have hfull := h.next_eq_last_iff.mp hl
      exact Or.inl ⟨hp, hl, h.allocate_of_full hp (by omega)⟩
    · have hroom : paths.length < issuable := by
        have hle := h.length_le
        have hne := mt h.next_eq_last_iff.mpr hl
        omega
      exact Or.inr ⟨hp, hl, h.allocate hp hroom⟩

/-! ### Every run -/

/-- **A new store issues its fsids in order and forgets none.**  After any questions its maps are
inverse to each other, its fsids in use are those below the next one, and its counts agree.  An
allocation fails if and only if the path has an fsid, which is a conflict, or the next fsid is the
largest, and leaves the store as it is then; otherwise it gives the path the next fsid, for good. -/
theorem issues_in_order (queries : List Query) (path : String) :
    let s := empty.run queries
    s.Consistent ∧
      ((∃ e, (s.allocate path).1 = .error e) ↔
        s.fsids.contains path = true ∨ s.next = .last) ∧
      (s.fsids.contains path = true → s.allocate path = (.error (.conflict path), s)) ∧
      (s.fsids.contains path = false → s.next = .last →
        s.allocate path = (.error (.other "fsid space exhausted"), s)) ∧
      (s.fsids.contains path = false → s.next ≠ .last →
        ∃ t, s.allocate path = (.ok s.next, t) ∧ t.Remembers path s.next) := by
  obtain ⟨paths, h⟩ := holds_run_empty queries
  intro s
  have hmem : s.fsids.contains path = true ↔ path ∈ paths := h.contains path
  have hnot : s.fsids.contains path = false ↔ path ∉ paths := by
    rw [← hmem, Bool.not_eq_true]
  simp only [hmem, hnot]
  refine ⟨h.consistent, ?_⟩
  rcases h.allocate_cases path with ⟨hp, ha⟩ | ⟨hp, hl, ha⟩ | ⟨hp, hl, t, ha, ht⟩
  · rw [ha]
    exact ⟨⟨fun _ => Or.inl hp, fun _ => ⟨_, rfl⟩⟩, fun _ => rfl, fun hn => absurd hp hn,
      fun hn => absurd hp hn⟩
  · rw [ha]
    exact ⟨⟨fun _ => Or.inr hl, fun _ => ⟨_, rfl⟩⟩, fun hn => absurd hn hp, fun _ _ => rfl,
      fun _ hn => absurd hl hn⟩
  · rw [ha]
    refine ⟨⟨?_, fun ho => (ho.elim hp hl).elim⟩, fun hn => absurd hn hp,
      fun _ hn => absurd hn hl, fun _ _ => ⟨t, rfl, ht.remembers ?_⟩⟩
    · rintro ⟨e, he⟩
      cases he
    · exact numbered_concat_iff.mpr (Or.inr ⟨rfl, h.next⟩)

/-- A path that has an fsid is turned down, and the next path gets the fsid that was not used. -/
theorem issues_in_order_after_conflict :
    let s := empty.run [.allocate "/foo", .allocate "/foo", .pathOf .last]
    s.fsids.contains "/foo" = true ∧ s.allocate "/foo" = (.error (.conflict "/foo"), s) ∧
      s.next.val = 2 ∧ ∃ t, s.allocate "/bar" = (.ok s.next, t) ∧ t.Remembers "/bar" s.next := by
  intro s
  obtain ⟨_, _, hconflict, _, _⟩ :=
    issues_in_order [.allocate "/foo", .allocate "/foo", .pathOf .last] "/foo"
  obtain ⟨_, _, _, _, hnew⟩ :=
    issues_in_order [.allocate "/foo", .allocate "/foo", .pathOf .last] "/bar"
  have hfoo : s.fsids.contains "/foo" = true := by decide +kernel
  have hbar : s.fsids.contains "/bar" = false := by decide +kernel
  have hnext : s.next.val = 2 := by decide +kernel
  refine ⟨hfoo, hconflict hfoo, hnext, hnew hbar ?_⟩
  intro hl
  rw [hl] at hnext
  cases hnext

/-- A store can hold any number of paths that there are fsids for. -/
theorem exists_run_holds {n : Nat} (hn : n ≤ issuable) :
    ∃ queries paths, (empty.run queries).Holds paths ∧ paths.length = n := by
  induction n with
  | zero => exact ⟨[], [], holds_empty, rfl⟩
  | succ n ih =>
    obtain ⟨queries, paths, h, hl⟩ := ih (by omega)
    obtain ⟨path, hp⟩ := Infinite.exists_notMem_finset paths.toFinset
    rw [List.mem_toFinset] at hp
    obtain ⟨t, ha, ht⟩ := h.allocate hp (by omega)
    refine ⟨queries ++ [.allocate path], paths ++ [path], ?_, by simp [hl]⟩
    have hstep : (empty.run queries).run [.allocate path] = t := congrArg Prod.snd ha
    rw [run_append, hstep]
    exact ht

/-- There is a run after which no fsid is left. -/
theorem exists_run_next_eq_last : ∃ queries, (empty.run queries).next = .last := by
  obtain ⟨queries, paths, h, hl⟩ := exists_run_holds (Nat.le_refl issuable)
  exact ⟨queries, h.next_eq_last_iff.mpr hl⟩

end MemoryStore

end FsidRegistry
