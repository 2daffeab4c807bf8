import FsidRegistry.Proofs.Store.Table

/-!
# What an allocation leaves in a table

The table numbers its rows with 64 bits and an fsid has 32, and the number of a new row is read only
once the row is there.  So an allocation that succeeds has added the row that it says, and one that
fails has changed nothing, but for one kind of failure: the row is there and its number is not an fsid.

* `SqlStore.rows`, `SqlStore.WellKept`: the rows of the store's table, and a state that it can be in.
* `SqlStore.Adds`: the database takes a row for a path, under a number.
* `SqlStore.Adds.allocate`, `SqlStore.allocate_of_not_adds`: what an allocation comes to if it does,
  and if it does not.
* `SqlStore.allocate_all_or_nothing_unless_large`: all that an allocation can come to.
* `SqlStore.failed_allocation_leaves_row`: a row of a failed allocation that stays.
-/

namespace FsidRegistry

namespace OpenDatabase

variable {d : OpenDatabase} {name : String} {t : NamedTable}

/-- A statement can write to a table that is there, in a database that takes new rows. -/
theorem tableForWriting_eq_ok_iff :
    d.tableForWriting name = .ok t ↔ d.Writable ∧ d.database.table? name = some t := by
  constructor
  · intro h
    unfold OpenDatabase.tableForWriting OpenDatabase.tableFor OpenDatabase.checkUsable at h
    cases hc : d.closed <;> cases hf : d.foreign <;> cases ht : d.database.table? name <;>
      cases hr : d.readOnly <;> simp [hc, hf, ht, hr, bind, Except.bind] at h
    exact ⟨⟨hc, hf, hr⟩, congrArg some h⟩
  · rintro ⟨hw, ht⟩
    exact hw.tableForWriting ht

end OpenDatabase

namespace SqlStore

variable {s : SqlStore} {path : String} {n : Int}

/-- The rows of the store's table.  A table that is not there has none. -/
def rows (s : SqlStore) : List (Int × String) :=
  match s.database.database.table? s.name.text with
  | some t => t.table.rows
  | none => []

/-- The store's table is in a state that tables can be in, if it is there. -/
def WellKept (s : SqlStore) : Prop :=
  ∀ t, s.database.database.table? s.name.text = some t → t.table.WellKept

/-- The store's table is what somebody has made of a new one, if it is there. -/
def Written (s : SqlStore) : Prop :=
  ∀ t, s.database.database.table? s.name.text = some t →
    ∃ changes : List FsidTable.Change, t.table = changes.foldl FsidTable.change .empty

/-- The database takes a row for the path, under the number `n`. -/
structure Adds (s : SqlStore) (path : String) (n : Int) : Prop where
  writable : s.database.Writable
  next : ∃ t, s.database.database.table? s.name.text = some t ∧ n = t.table.largest + 1
  new : ∀ m, (m, path) ∉ s.rows
  fits : n ≤ FsidTable.maxFsid

/-- The error for a number that is too large for an fsid. -/
def tooLarge : StoreError :=
  .driver (.columnDecode 0 "number too large to fit in target type")

/-- Every table that somebody can make is in such a state. -/
theorem Written.wellKept (h : s.Written) : s.WellKept := by
  intro t ht
  obtain ⟨changes, hchanges⟩ := h t ht
  rw [hchanges]
  exact FsidTable.wellKept_changes changes

theorem rows_eq {t : NamedTable} (ht : s.database.database.table? s.name.text = some t) :
    s.rows = t.table.rows := by
  unfold rows
  rw [ht]

theorem decodeFsid_of_large (hn : 2147483647 < n) : decodeFsid n = .error tooLarge := by
  have hrange : ¬ (-2147483648 ≤ n ∧ n ≤ 2147483647) := by omega
  have hneg : ¬ n < 0 := by omega
  unfold decodeFsid Fsid.ofInt?
  rw [dif_neg hrange]
  dsimp only
  rw [if_neg hneg]
  rfl

/-- A number that is read as an fsid is that fsid's. -/
theorem val_of_decodeFsid {fsid : Fsid} (h : decodeFsid n = .ok fsid) : fsid.val = n := by
  unfold decodeFsid Fsid.ofInt? at h
  split at h
  · rename_i f hf
    split at hf
    · cases hf
      cases h
      rfl
    · cases hf
  · cases h

/-! ### A row that the database takes -/

/-- Where the database takes a row, the row is added and its number is read afterwards. -/
theorem Adds.allocate (hs : s.WellKept) (h : s.Adds path n) :
    (s.allocate path).1 = decodeFsid n ∧ (s.allocate path).2.WellKept ∧
      (s.allocate path).2.database.Writable ∧
      (s.allocate path).2.rows = s.rows ++ [(n, path)] ∧
      ∃ t, (s.allocate path).2.database.database.table? (s.allocate path).2.name.text = some t ∧
        t.table.rows = s.rows ++ [(n, path)] := by
  obtain ⟨t, ht, hn⟩ := h.next
  have hnew := h.new
  have hfits := h.fits
  rw [rows_eq ht] at hnew ⊢
  have hins : t.table.insertPath path = .ok (n, ⟨t.table.rows ++ [(n, path)], n⟩) := by
    refine (hs t ht).insertPath_eq_ok_iff.mpr ⟨by omega, ?_, hn, rfl⟩
    exact FsidTable.hasPath_eq_false_iff.mpr hnew
  obtain ⟨_, _, hrow⟩ := FsidTable.insertPath_eq_ok_iff.mp hins
  have hkept := (hs t ht).insertRow hrow
  let u : NamedTable := { t with table := ⟨t.table.rows ++ [(n, path)], n⟩ }
  have halloc : s.allocate path =
      (decodeFsid n, { s with database := s.database.withTable u }) := by
    unfold SqlStore.allocate
    rw [h.writable.tableForWriting ht]
    dsimp only
    rw [hins]
  have hu : (s.database.database.setTable u).table? s.name.text = some u :=
    Database.table?_setTable ht rfl
  rw [halloc]
  refine ⟨rfl, ?_, ⟨h.writable.closed, h.writable.foreign, h.writable.readOnly⟩, ?_, u, hu, rfl⟩
  · intro v hv
    obtain rfl : u = v := Option.some.inj (hu.symm.trans hv)
    exact hkept
  · exact rows_eq (s := { s with database := s.database.withTable u }) hu

/-- Once its row is added, a path is found under the number of the row. -/
theorem Adds.fsidOf (hs : s.WellKept) (h : s.Adds path n) :
    (s.allocate path).2.fsidOf path = decodeFsid n := by
  obtain ⟨_, hkept, hw, _, t, ht, hrows⟩ := h.allocate hs
  have hf : t.table.fsidOf? path = some n := by
    refine (hkept t ht).fsidOf?_eq_some_iff.mpr ?_
    rw [hrows]
    simp
  unfold SqlStore.fsidOf
  rw [hw.tableFor ht]
  dsimp only [bind, Except.bind]
  rw [hf]

theorem Adds.pathOf (hs : s.WellKept) (h : s.Adds path n) {fsid : Fsid} (hv : fsid.val = n) :
    (s.allocate path).2.pathOf fsid = .ok path := by
  obtain ⟨_, hkept, hw, _, t, ht, hrows⟩ := h.allocate hs
  have hp : t.table.pathOf? fsid.val = some path := by
    refine (hkept t ht).pathOf?_eq_some_iff.mpr ?_
    rw [hrows, hv]
    simp
  unfold SqlStore.pathOf
  rw [hw.tableFor ht]
  dsimp only [bind, Except.bind]
  rw [hp]

/-! ### A row that the database refuses -/

/-- Where the database takes no row, nothing changes. -/
theorem allocate_of_not_adds (hs : s.WellKept) (h : ∀ n, ¬ s.Adds path n) :
    ∃ e, s.allocate path = (.error e, s) := by
  unfold SqlStore.allocate
  cases ht : s.database.tableForWriting s.name.text with
  | error e => exact ⟨e, rfl⟩
  | ok t =>
    obtain ⟨hw, hat⟩ := OpenDatabase.tableForWriting_eq_ok_iff.mp ht
    dsimp only
    cases hi : t.table.insertPath path with
    | error r => exact ⟨_, rfl⟩
    | ok r =>
      obtain ⟨n, t'⟩ := r
      obtain ⟨hfull, hnew, hn, _⟩ := (hs t hat).insertPath_eq_ok_iff.mp hi
      refine absurd ⟨hw, ⟨t, hat, hn⟩, ?_, by omega⟩ (h n)
      rw [rows_eq hat]
      exact FsidTable.hasPath_eq_false_iff.mp hnew

/-- A path that has a row is not added again. -/
theorem allocate_of_mem (hs : s.WellKept) (hmem : (n, path) ∈ s.rows) :
    ∃ e, s.allocate path = (.error e, s) :=
  allocate_of_not_adds hs fun _ h => h.new n hmem

/-! ### Every allocation -/

/-- **An allocation is all or nothing, but for a number that is too large**, in every table that
somebody can make.  If it returns an fsid, the fsid is positive and the path had no row, and now both
lookups find the pair.  If it fails, the store is as it was, unless the database took the row and its
number is no fsid: that row stays, and the path can then neither be looked up nor allocated. -/
theorem allocate_all_or_nothing_unless_large (hs : s.WellKept) (path : String) :
    (∀ u : SqlStore, u.Written → u.WellKept) ∧
    (∀ fsid, (s.allocate path).1 = .ok fsid →
      1 ≤ fsid.val ∧ (∀ m, (m, path) ∉ s.rows) ∧
        (s.allocate path).2.rows = s.rows ++ [(fsid.val, path)] ∧
        (s.allocate path).2.fsidOf path = .ok fsid ∧
        (s.allocate path).2.pathOf fsid = .ok path) ∧
    (∀ e, (s.allocate path).1 = .error e →
      (s.allocate path).2 = s ∨ ∃ n, 2147483647 < n ∧ s.Adds path n) ∧
    ∀ n, 2147483647 < n → s.Adds path n →
      (s.allocate path).1 = .error tooLarge ∧
        (s.allocate path).2.rows = s.rows ++ [(n, path)] ∧
        (s.allocate path).2.fsidOf path = .error tooLarge ∧
        ∃ e, ((s.allocate path).2.allocate path).1 = .error e := by
  refine ⟨fun u => Written.wellKept, ?_, ?_, ?_⟩
  · intro fsid hok
    by_cases hadds : ∃ n, s.Adds path n
    · obtain ⟨n, h⟩ := hadds
      obtain ⟨hres, _, _, hrows, _⟩ := h.allocate hs
      rw [hres] at hok
      have hv := val_of_decodeFsid hok
      obtain ⟨t, ht, hn⟩ := h.next
      have hnonneg := (hs t ht).largest_nonneg
      refine ⟨by omega, h.new, by rw [hv]; exact hrows, ?_, h.pathOf hs hv⟩
      rw [h.fsidOf hs, hok]
    · obtain ⟨e, he⟩ := allocate_of_not_adds hs (not_exists.mp hadds)
      rw [he] at hok
      cases hok
  · intro e herr
    by_cases hadds : ∃ n, s.Adds path n
    · obtain ⟨n, h⟩ := hadds
      refine Or.inr ⟨n, ?_, h⟩
      by_contra hsmall
      obtain ⟨t, ht, hn⟩ := h.next
      have hnonneg := (hs t ht).largest_nonneg
      let fsid : Fsid := ⟨n, by omega, by omega⟩
      have hdecode : decodeFsid n = .ok fsid := decodeFsid_val fsid
      rw [(h.allocate hs).1, hdecode] at herr
      cases herr
    · obtain ⟨e', he'⟩ := allocate_of_not_adds hs (not_exists.mp hadds)
      exact Or.inl (by rw [he'])
  · intro n hlarge h
    obtain ⟨hres, hkept, _, hrows, _⟩ := h.allocate hs
    refine ⟨hres.trans (decodeFsid_of_large hlarge), hrows,
      (h.fsidOf hs).trans (decodeFsid_of_large hlarge), ?_⟩
    have hmem : (n, path) ∈ (s.allocate path).2.rows := by
      rw [hrows]
      simp
    obtain ⟨e, he⟩ := allocate_of_mem hkept hmem
    exact ⟨e, by rw [he]⟩

/-- The store over a table to which someone has added a row with the number `n`. -/
def withRow (n : Int) : SqlStore :=
  ⟨⟨"fsids", by decide⟩,
    { database := ⟨[⟨"fsids", FsidTable.empty.change (.insertsRow n "/x")⟩]⟩ }⟩

theorem table?_withRow (n : Int) : (withRow n).database.database.table? (withRow n).name.text =
    some ⟨"fsids", FsidTable.empty.change (.insertsRow n "/x")⟩ := by
  simp [withRow, Database.table?, Database.sameName_self]

theorem written_withRow (n : Int) : (withRow n).Written := by
  intro t ht
  rw [table?_withRow] at ht
  cases ht
  exact ⟨[.insertsRow n "/x"], rfl⟩

theorem rows_withRow (n : Int) : (withRow n).rows = [(n, "/x")] := rows_eq (table?_withRow n)

/-- The database takes a row for another path, under the next number. -/
theorem adds_withRow (hn : 0 ≤ n) (hfits : n < FsidTable.maxFsid) :
    (withRow n).Adds "/a" (n + 1) where
  writable := ⟨rfl, rfl, rfl⟩
  next := by
    refine ⟨_, table?_withRow n, ?_⟩
    show n + 1 = max 0 n + 1
    omega
  new := by simp [rows_withRow]
  fits := by omega

/-- The last number that is an fsid is given to a path. -/
theorem allocate_all_or_nothing_unless_large_last :
    (withRow 2147483646).WellKept ∧
      ((withRow 2147483646).allocate "/a").1 = .ok ⟨2147483647, by decide, by decide⟩ ∧
      ((withRow 2147483646).allocate "/a").2.fsidOf "/a" =
        .ok ⟨2147483647, by decide, by decide⟩ := by
  have hs := (written_withRow 2147483646).wellKept
  have hadds : (withRow 2147483646).Adds "/a" 2147483647 := adds_withRow (by decide) (by decide)
  have hok : ((withRow 2147483646).allocate "/a").1 = .ok ⟨2147483647, by decide, by decide⟩ :=
    (hadds.allocate hs).1.trans (decodeFsid_val ⟨2147483647, by decide, by decide⟩)
  exact ⟨hs, hok, ((allocate_all_or_nothing_unless_large hs "/a").2.1 _ hok).2.2.2.1⟩

/-- The number after that is given to a path as well, and the allocation fails. -/
theorem failed_allocation_leaves_row :
    (withRow 2147483647).WellKept ∧
      ((withRow 2147483647).allocate "/a").1 = .error tooLarge ∧
      (withRow 2147483647).rows = [(2147483647, "/x")] ∧
      ((withRow 2147483647).allocate "/a").2.rows =
        [(2147483647, "/x"), (2147483648, "/a")] := by
  have hs := (written_withRow 2147483647).wellKept
  have hadds : (withRow 2147483647).Adds "/a" 2147483648 := adds_withRow (by decide) (by decide)
  obtain ⟨hres, _, _, hrows, _⟩ := hadds.allocate hs
  refine ⟨hs, hres.trans (decodeFsid_of_large (by decide)), rows_withRow _, ?_⟩
  rw [hrows, rows_withRow]
  rfl

end SqlStore

end FsidRegistry
