import FsidRegistry.Store.Table

/-!
# The rows of a table, whoever wrote them

The rows of a table come from its store, and from others who add and remove rows as they like.  The
database keeps three things of them: no two rows share a number or a path, no row is above the largest
number that the table ever held, and that number does not fall below zero.

* `FsidTable.WellKept`: a table of which the three hold.
* `FsidTable.change`, `FsidTable.wellKept_changes`: whatever is done to a new table, they do.
* `WellKept.fsidOf?_eq_some_iff`, `WellKept.pathOf?_eq_some_iff`: a lookup finds the row there is.
* `WellKept.insertPath_eq_ok_iff`: which paths get a row, and which number.
-/

namespace FsidRegistry

/-- What only one element of a list has is found at that element. -/
theorem find?_eq_of_only {α : Type} {p : α → Bool} {x : α} {xs : List α} (hx : x ∈ xs)
    (hp : p x = true) (ho : ∀ y ∈ xs, p y = true → y = x) : xs.find? p = some x := by
  cases hf : xs.find? p with
  | none => exact absurd hp (List.find?_eq_none.mp hf x hx)
  | some y => rw [ho y (List.mem_of_find?_eq_some hf) (List.find?_some hf)]

namespace FsidTable

variable {t t' : FsidTable} {n : Int} {path : String}

/-- No two rows share a number or a path, and no row is above the largest number. -/
structure WellKept (t : FsidTable) : Prop where
  number_eq_iff : ∀ {r r'}, r ∈ t.rows → r' ∈ t.rows → (r.1 = r'.1 ↔ r.2 = r'.2)
  le_largest : ∀ r ∈ t.rows, r.1 ≤ t.largest
  largest_nonneg : 0 ≤ t.largest

/-- What is done to the rows of a table, by its store or by others. -/
inductive Change
  | insertsPath (path : String)
  | insertsRow (fsid : Int) (path : String)
  | deletes (fsid : Option Int) (path : Option String)

/-- The table after a change.  A row that is refused changes nothing. -/
def change (t : FsidTable) : Change → FsidTable
  | .insertsPath path => match t.insertPath path with
    | .ok (_, t') => t'
    | .error _ => t
  | .insertsRow fsid path => match t.insertRow fsid path with
    | .ok t' => t'
    | .error _ => t
  | .deletes fsid path => (t.delete fsid path).2

/-! ### Rows -/

theorem hasPath_eq_false_iff : t.hasPath path = false ↔ ∀ n, (n, path) ∉ t.rows := by
  unfold hasPath
  simp only [List.any_eq_false, beq_iff_eq]
  constructor
  · intro h n hmem
    exact h _ hmem rfl
  · rintro h ⟨n, p⟩ hmem rfl
    exact h n hmem

theorem hasFsid_eq_false_iff : t.hasFsid n = false ↔ ∀ path, (n, path) ∉ t.rows := by
  unfold hasFsid
  simp only [List.any_eq_false, beq_iff_eq]
  constructor
  · intro h path hmem
    exact h _ hmem rfl
  · rintro h ⟨m, p⟩ hmem rfl
    exact h p hmem

/-- A row is added where neither its number nor its path is in the table. -/
theorem insertRow_eq_ok_iff : t.insertRow n path = .ok t' ↔
    t.hasFsid n = false ∧ t.hasPath path = false ∧
      t' = ⟨t.rows ++ [(n, path)], max t.largest n⟩ := by
  unfold insertRow
  cases t.hasFsid n <;> cases t.hasPath path <;> simp [eq_comm]

/-- A path gets the number after the largest one. -/
theorem insertPath_eq_ok_iff : t.insertPath path = .ok (n, t') ↔
    t.largest < maxFsid ∧ n = t.largest + 1 ∧ t.insertRow n path = .ok t' := by
  unfold insertPath
  by_cases hfull : maxFsid ≤ t.largest
  · simp [hfull, Int.not_lt.mpr hfull]
  · rw [if_neg hfull]
    constructor
    · intro h
      cases hr : t.insertRow (t.largest + 1) path with
      | error r =>
        rw [hr] at h
        cases h
      | ok u =>
        rw [hr] at h
        cases h
        exact ⟨by omega, rfl, hr⟩
    · rintro ⟨_, rfl, hr⟩
      rw [hr]
      rfl

theorem wellKept_empty : empty.WellKept where
  number_eq_iff hr := by cases hr
  le_largest _ hr := by cases hr
  largest_nonneg := Int.le_refl 0

theorem WellKept.insertRow (h : t.WellKept) (hi : t.insertRow n path = .ok t') : t'.WellKept := by
  obtain ⟨hn, hp, rfl⟩ := insertRow_eq_ok_iff.mp hi
  rw [hasFsid_eq_false_iff] at hn
  rw [hasPath_eq_false_iff] at hp
  have hnonneg := h.largest_nonneg
  refine ⟨?_, ?_, by dsimp only; omega⟩
  · rintro ⟨m, p⟩ ⟨m', p'⟩ hr hr'
    simp only [List.mem_append, List.mem_singleton] at hr hr'
    rcases hr with hr | hr <;> rcases hr' with hr' | hr'
    · exact h.number_eq_iff hr hr'
    · cases hr'
      refine iff_of_false ?_ ?_
      · rintro rfl
        exact hn _ hr
      · rintro rfl
        exact hp _ hr
    · cases hr
      refine iff_of_false ?_ ?_
      · rintro rfl
        exact hn _ hr'
      · rintro rfl
        exact hp _ hr'
    · rw [hr, hr']
      exact iff_of_true rfl rfl
  · intro r hr
    simp only [List.mem_append, List.mem_singleton] at hr
    dsimp only
    rcases hr with hr | rfl
    · have hle := h.le_largest r hr
      omega
    · dsimp only
      omega

theorem WellKept.delete (h : t.WellKept) (fsid : Option Int) (path : Option String) :
    (t.delete fsid path).2.WellKept where
  number_eq_iff hr hr' :=
    h.number_eq_iff (List.mem_filter.mp hr).1 (List.mem_filter.mp hr').1
  le_largest r hr := h.le_largest r (List.mem_filter.mp hr).1
  largest_nonneg := h.largest_nonneg

theorem WellKept.change (h : t.WellKept) (c : Change) : (t.change c).WellKept := by
  cases c with
  | insertsPath path =>
    cases hi : t.insertPath path with
    | error r => simpa [FsidTable.change, hi] using h
    | ok r =>
      obtain ⟨n, t'⟩ := r
      obtain ⟨_, _, hr⟩ := insertPath_eq_ok_iff.mp hi
      simpa [FsidTable.change, hi] using h.insertRow hr
  | insertsRow fsid path =>
    cases hi : t.insertRow fsid path with
    | error r => simpa [FsidTable.change, hi] using h
    | ok t' => simpa [FsidTable.change, hi] using h.insertRow hi
  | deletes fsid path => exact h.delete fsid path

/-- **Whatever is done to a new table, it is well kept.** -/
theorem wellKept_changes (changes : List Change) : (changes.foldl change empty).WellKept := by
  suffices h : ∀ t : FsidTable, t.WellKept → (changes.foldl change t).WellKept from
    h empty wellKept_empty
  induction changes with
  | nil => exact fun _ h => h
  | cons c changes ih => exact fun t h => ih _ (h.change c)

/-! ### Lookups -/

theorem WellKept.fsidOf?_eq_some_iff (h : t.WellKept) :
    t.fsidOf? path = some n ↔ (n, path) ∈ t.rows := by
  unfold fsidOf?
  constructor
  · intro hf
    obtain ⟨r, hr, rfl⟩ := Option.map_eq_some_iff.mp hf
    have hp : r.2 = path := by simpa using List.find?_some hr
    exact hp ▸ List.mem_of_find?_eq_some hr
  · intro hm
    have hr : t.rows.find? (·.2 == path) = some (n, path) := by
      refine find?_eq_of_only hm (beq_self_eq_true path) fun r hr hp => ?_
      have hp : r.2 = path := beq_iff_eq.mp hp
      exact Prod.ext ((h.number_eq_iff hr hm).mpr hp) hp
    rw [hr]
    rfl

theorem WellKept.pathOf?_eq_some_iff (h : t.WellKept) :
    t.pathOf? n = some path ↔ (n, path) ∈ t.rows := by
  unfold pathOf?
  constructor
  · intro hf
    obtain ⟨r, hr, rfl⟩ := Option.map_eq_some_iff.mp hf
    have hn : r.1 = n := by simpa using List.find?_some hr
    exact hn ▸ List.mem_of_find?_eq_some hr
  · intro hm
    have hr : t.rows.find? (·.1 == n) = some (n, path) := by
      refine find?_eq_of_only hm (beq_self_eq_true n) fun r hr hn => ?_
      have hn : r.1 = n := beq_iff_eq.mp hn
      exact Prod.ext hn ((h.number_eq_iff hr hm).mp hn)
    rw [hr]
    rfl

/-! ### New paths -/

/-- The next number is above those of all rows. -/
theorem WellKept.hasFsid_next (h : t.WellKept) : t.hasFsid (t.largest + 1) = false := by
  rw [hasFsid_eq_false_iff]
  intro path hmem
  have hle := h.le_largest _ hmem
  omega

/-- Only a path that has a row gets none, and any path once the numbers are used up. -/
theorem WellKept.insertPath_eq_ok_iff (h : t.WellKept) : t.insertPath path = .ok (n, t') ↔
    t.largest < maxFsid ∧ t.hasPath path = false ∧ n = t.largest + 1 ∧
      t' = ⟨t.rows ++ [(n, path)], n⟩ := by
  rw [FsidTable.insertPath_eq_ok_iff, insertRow_eq_ok_iff]
  constructor
  · rintro ⟨hfull, rfl, _, hp, rfl⟩
    refine ⟨hfull, hp, rfl, ?_⟩
    rw [Int.max_eq_right (by omega)]
  · rintro ⟨hfull, hp, rfl, rfl⟩
    refine ⟨hfull, rfl, h.hasFsid_next, hp, ?_⟩
    rw [Int.max_eq_right (by omega)]

end FsidTable

end FsidRegistry
