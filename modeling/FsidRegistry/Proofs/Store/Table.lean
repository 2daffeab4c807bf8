import FsidRegistry.Proofs.Store.Memory
import FsidRegistry.Proofs.Store.Rows
import FsidRegistry.Store.Sql

/-!
# A table answers as a memory store does

A new table numbers its rows from 1 and has each path once, and so does a memory store.  The two
answer every question alike, whatever has been asked of both before, until the memory store is full.
Their errors are not the same, but they fall into the same classes.

* `FsidTable.Holds`: a table has a row for each path of a list, numbered in the order of the list.
* `SqlStore.Holds`: the table of a store does, and the database takes new rows.
* `SqlStore.Holds.asked`: one question to both stores.
* `SqlStore.Holds.createTable`: creating the table once more changes nothing.
* `SqlStore.answers_alike`: any number of questions.
-/

namespace FsidRegistry

/-! ## Answers -/

/-- Two errors fall into the same classes. -/
structure StoreError.SameClasses (e f : StoreError) : Prop where
  notFound : e.isNotFound = f.isNotFound
  conflict : e.isConflict = f.isConflict
  retryable : e.isRetryable = f.isRetryable

/-- Two answers are the same value, or errors of the same classes. -/
inductive Query.Alike (q : Query) : Answer q → Answer q → Prop
  | value (v : q.Value) : Alike q (.ok v) (.ok v)
  | failure {e f : StoreError} (h : e.SameClasses f) : Alike q (.error e) (.error f)

theorem StoreError.SameClasses.refl (e : StoreError) : e.SameClasses e := ⟨rfl, rfl, rfl⟩

/-! ## Tables -/

namespace FsidTable

variable {t : FsidTable} {paths : List String} {path : String}

/-- The table has a row for each path of a list, numbered from 1 in the order of the list. -/
structure Holds (t : FsidTable) (paths : List String) : Prop where
  nodup : paths.Nodup
  largest : t.largest = paths.length
  rows : ∀ n path, (n, path) ∈ t.rows ↔ ∃ fsid : Fsid, fsid.val = n ∧ Numbered paths (fsid, path)

theorem holds_empty : empty.Holds [] where
  nodup := List.nodup_nil
  largest := rfl
  rows _ _ := ⟨fun h => (by cases h), fun ⟨_, _, h⟩ => (not_numbered_nil _ h).elim⟩

/-- Such a table is in a state that tables can be in. -/
theorem Holds.wellKept (h : t.Holds paths) : t.WellKept where
  number_eq_iff := by
    intro r r' hr hr'
    obtain ⟨fsid, hv, hn⟩ := (h.rows r.1 r.2).mp hr
    obtain ⟨fsid', hv', hn'⟩ := (h.rows r'.1 r'.2).mp hr'
    have hiff : fsid = fsid' ↔ r.2 = r'.2 := hn.fsid_eq_iff h.nodup hn'
    rw [← hiff, ← hv, ← hv']
    exact ⟨Fsid.ext_val, congrArg Fsid.val⟩
  le_largest := by
    intro r hr
    obtain ⟨fsid, hv, hn⟩ := (h.rows r.1 r.2).mp hr
    have hle : fsid.val ≤ paths.length := hn.val_le
    have hlargest := h.largest
    omega
  largest_nonneg := by
    have hlargest := h.largest
    omega

theorem Holds.hasPath (h : t.Holds paths) (hl : paths.length ≤ issuable) :
    t.hasPath path = true ↔ path ∈ paths := by
  unfold FsidTable.hasPath
  rw [List.any_eq_true]
  constructor
  · rintro ⟨r, hr, hp⟩
    obtain ⟨fsid, _, hn⟩ := (h.rows r.1 r.2).mp hr
    exact beq_iff_eq.mp hp ▸ hn.mem
  · intro hp
    obtain ⟨i, hi⟩ := List.getElem?_of_mem hp
    have hlt : i < paths.length := (List.getElem?_eq_some_iff.mp hi).1
    unfold issuable at hl
    let fsid : Fsid := ⟨i + 1, by omega, by omega⟩
    exact ⟨(fsid.val, path), (h.rows _ _).mpr ⟨fsid, rfl, i, hi, rfl⟩, beq_self_eq_true path⟩

theorem Holds.insertPath_of_mem (h : t.Holds paths) (hl : paths.length ≤ issuable)
    (hp : path ∈ paths) : t.insertPath path = .error .pathTaken := by
  have hlargest := h.largest
  unfold insertPath insertRow
  rw [if_neg (by unfold issuable at hl; unfold maxFsid; omega), h.wellKept.hasFsid_next,
    (h.hasPath hl).mpr hp]
  rfl

/-- A path that has no row gets the next number. -/
theorem Holds.insertPath (h : t.Holds paths) (hl : paths.length < issuable) (hp : path ∉ paths)
    {fsid : Fsid} (hf : fsid.val = paths.length + 1) :
    ∃ t', t.insertPath path = .ok (fsid.val, t') ∧ t'.Holds (paths ++ [path]) := by
  have hlargest := h.largest
  have hnew : t.hasPath path = false :=
    Bool.eq_false_iff.mpr fun hc => hp ((h.hasPath (Nat.le_of_lt hl)).mp hc)
  refine ⟨⟨t.rows ++ [(fsid.val, path)], fsid.val⟩, ?_, ?_, ?_, fun n p => ?_⟩
  · refine h.wellKept.insertPath_eq_ok_iff.mpr ⟨?_, hnew, by omega, rfl⟩
    unfold issuable at hl
    unfold maxFsid
    omega
  · refine List.nodup_append.mpr ⟨h.nodup, List.pairwise_singleton _ path, fun p hpm q hq => ?_⟩
    rw [List.mem_singleton.mp hq]
    rintro rfl
    exact hp hpm
  · show fsid.val = ((paths ++ [path]).length : Int)
    rw [List.length_append, List.length_singleton, hf]
    rfl
  · rw [List.mem_append, List.mem_singleton, h.rows]
    constructor
    · rintro (⟨f, hv, hn⟩ | he)
      · exact ⟨f, hv, hn.append [path]⟩
      · cases he
        exact ⟨fsid, rfl, numbered_concat_iff.mpr (.inr ⟨rfl, hf⟩)⟩
    · rintro ⟨f, rfl, hn⟩
      rcases numbered_concat_iff.mp hn with hn | ⟨hp, hv⟩
      · exact .inl ⟨f, rfl, hn⟩
      · dsimp only at hp hv
        rw [hp, hv, hf]
        exact .inr rfl

end FsidTable

/-! ## Databases -/

theorem Database.sameName_self (name : String) : sameName name name = true := beq_self_eq_true _

/-- A table that is replaced under its own name is found under every name that it had. -/
theorem Database.table?_setTable {d : Database} {name : String} {t u : NamedTable}
    (h : d.table? name = some t) (hu : u.name = t.name) : (d.setTable u).table? name = some u := by
  have ht : sameName t.name name = true :=
    List.find?_some (p := fun t : NamedTable => sameName t.name name) h
  have hsame : ∀ v : NamedTable, sameName v.name u.name = sameName v.name name := by
    intro v
    rw [hu]
    unfold sameName at ht ⊢
    rw [beq_iff_eq.mp ht]
  obtain ⟨tables⟩ := d
  unfold table? setTable at *
  dsimp only at *
  induction tables with
  | nil => cases h
  | cons v tables ih =>
    rw [List.map_cons]
    by_cases hv : sameName v.name name = true
    · rw [if_pos ((hsame v).trans hv), List.find?_cons_of_pos (by rw [hu, ht])]
    · rw [List.find?_cons_of_neg (by exact hv)] at h
      rw [if_neg (fun hc => hv ((hsame v).symm.trans hc)), List.find?_cons_of_neg (by exact hv)]
      exact ih h

namespace OpenDatabase

/-- A database that takes new rows. -/
structure Writable (d : OpenDatabase) : Prop where
  closed : d.closed = false
  foreign : d.foreign = false
  readOnly : d.readOnly = false

variable {d d' : OpenDatabase} {name : String} {t : NamedTable}

theorem Writable.checkUsable (h : d.Writable) : d.checkUsable = .ok () := by
  unfold OpenDatabase.checkUsable
  rw [h.closed, h.foreign]
  rfl

theorem Writable.tableFor (h : d.Writable) (ht : d.database.table? name = some t) :
    d.tableFor name = .ok t := by
  unfold OpenDatabase.tableFor
  rw [h.checkUsable, ht]
  rfl

theorem Writable.tableForWriting (h : d.Writable) (ht : d.database.table? name = some t) :
    d.tableForWriting name = .ok t := by
  unfold OpenDatabase.tableForWriting
  rw [h.tableFor ht, h.readOnly]
  rfl

/-- The names that a database keeps for itself. -/
def isReserved (name : String) : Bool := "sqlite_".isPrefixOf name.toLower

theorem createTable_of_reserved (h : d.Writable) (hr : isReserved name = true) :
    ∃ e, d.createTable name = .error e := by
  unfold isReserved at hr
  unfold createTable
  rw [h.checkUsable, hr]
  exact ⟨_, rfl⟩

theorem createTable_of_new (h : d.Writable) (hr : isReserved name = false)
    (hn : d.database.table? name = none) :
    d.createTable name = .ok { d with database := ⟨d.database.tables ++ [⟨name, .empty⟩]⟩ } := by
  unfold isReserved at hr
  unfold createTable
  rw [h.checkUsable, hr, hn, h.readOnly]
  rfl

theorem createTable_of_present (h : d.Writable) (hr : isReserved name = false)
    (ht : d.database.table? name = some t) : d.createTable name = .ok d := by
  unfold isReserved at hr
  unfold createTable
  rw [h.checkUsable, hr, ht]
  rfl

end OpenDatabase

/-! ## Stores -/

namespace SqlStore

variable {s : SqlStore} {m : MemoryStore} {paths : List String} {path : String}

/-- The table of the store has a row for each path of a list, and takes new rows. -/
structure Holds (s : SqlStore) (paths : List String) : Prop where
  writable : s.database.Writable
  unreserved : OpenDatabase.isReserved s.name.text = false
  table : ∃ t, s.database.database.table? s.name.text = some t ∧ t.table.Holds paths

/-- Creating the table once more changes nothing. -/
theorem Holds.createTable (h : s.Holds paths) : s.createTable = .ok s := by
  obtain ⟨t, ht, _⟩ := h.table
  unfold SqlStore.createTable
  rw [OpenDatabase.createTable_of_present h.writable h.unreserved ht]
  rfl

/-- A table that was created now has no rows. -/
theorem holds_of_createTable {d : OpenDatabase} {name : TableName} (hd : d.Writable)
    (hr : OpenDatabase.isReserved name.text = false) (hn : d.database.table? name.text = none) :
    ∃ s, SqlStore.createTable ⟨name, d⟩ = .ok s ∧ s.Holds [] := by
  unfold SqlStore.createTable
  rw [OpenDatabase.createTable_of_new hd hr hn]
  refine ⟨_, rfl, ⟨hd.closed, hd.foreign, hd.readOnly⟩, hr, ⟨name.text, .empty⟩, ?_,
    FsidTable.holds_empty⟩
  unfold Database.table? at hn ⊢
  show (d.database.tables ++ [(⟨name.text, .empty⟩ : NamedTable)]).find?
    (fun t => Database.sameName t.name name.text) = some ⟨name.text, .empty⟩
  rw [List.find?_append, hn, List.find?_cons_of_pos (by exact Database.sameName_self name.text)]
  rfl

theorem decodeFsid_val (fsid : Fsid) : decodeFsid fsid.val = .ok fsid := by
  unfold decodeFsid Fsid.ofInt?
  rw [dif_pos ⟨fsid.lower, fsid.upper⟩]

/-! ### Questions -/

theorem Holds.fsidOf (h : s.Holds paths) (hm : m.Holds paths) :
    Query.Alike (.fsidOf path) (s.fsidOf path) (m.fsidOf path) := by
  obtain ⟨t, ht, htable⟩ := h.table
  unfold SqlStore.fsidOf
  rw [h.writable.tableFor ht]
  dsimp only [bind, Except.bind]
  cases hf : t.table.fsidOf? path with
  | some n =>
    obtain ⟨fsid, rfl, hn⟩ := (htable.rows n path).mp (htable.wellKept.fsidOf?_eq_some_iff.mp hf)
    dsimp only
    rw [decodeFsid_val, hm.fsidOf_eq_ok.mpr hn]
    exact Query.Alike.value (q := .fsidOf path) fsid
  | none =>
    have hp : path ∉ paths := by
      intro hp
      obtain ⟨fsid, _, hn⟩ := hm.fsidOf_of_mem hp
      have hrow := (htable.rows fsid.val path).mpr ⟨fsid, rfl, hn⟩
      rw [htable.wellKept.fsidOf?_eq_some_iff.mpr hrow] at hf
      cases hf
    rw [hm.fsidOf_of_not_mem hp]
    exact .failure (.refl _)

theorem Holds.pathOf (h : s.Holds paths) (hm : m.Holds paths) {fsid : Fsid} :
    Query.Alike (.pathOf fsid) (s.pathOf fsid) (m.pathOf fsid) := by
  obtain ⟨t, ht, htable⟩ := h.table
  unfold SqlStore.pathOf
  rw [h.writable.tableFor ht]
  dsimp only [bind, Except.bind]
  cases hp : t.table.pathOf? fsid.val with
  | some path =>
    obtain ⟨f, hv, hn⟩ := (htable.rows fsid.val path).mp (htable.wellKept.pathOf?_eq_some_iff.mp hp)
    rw [Fsid.ext_val hv] at hn
    rw [hm.pathOf_eq_ok.mpr hn]
    exact Query.Alike.value (q := .pathOf fsid) path
  | none =>
    rcases m.pathOf_cases fsid with ⟨path, hok⟩ | hnone
    · have hrow := (htable.rows fsid.val path).mpr ⟨fsid, rfl, hm.pathOf_eq_ok.mp hok⟩
      rw [htable.wellKept.pathOf?_eq_some_iff.mpr hrow] at hp
      cases hp
    · rw [hnone]
      exact .failure (.refl _)

/-- An allocation gives both stores the same path under the same fsid, or fails for both because the
path has an fsid. -/
theorem Holds.allocate (h : s.Holds paths) (hm : m.Holds paths) (hl : paths.length < issuable) :
    Query.Alike (.allocate path) (s.allocate path).1 (m.allocate path).1 ∧
      ∃ after, (s.allocate path).2.Holds after ∧ (m.allocate path).2.Holds after := by
  obtain ⟨t, ht, htable⟩ := h.table
  unfold SqlStore.allocate
  rw [h.writable.tableForWriting ht]
  dsimp only
  by_cases hp : path ∈ paths
  · rw [htable.insertPath_of_mem (Nat.le_of_lt hl) hp, hm.allocate_of_mem hp]
    exact ⟨.failure ⟨rfl, rfl, rfl⟩, paths, h, hm⟩
  · obtain ⟨m', ha, hm'⟩ := hm.allocate hp hl
    obtain ⟨t', hi, ht'⟩ := htable.insertPath hl hp hm.next
    rw [hi, ha]
    dsimp only
    rw [decodeFsid_val]
    refine ⟨Query.Alike.value (q := .allocate path) m.next, paths ++ [path],
      ⟨?_, h.unreserved, { t with table := t' }, ?_, ht'⟩, hm'⟩
    · exact ⟨h.writable.closed, h.writable.foreign, h.writable.readOnly⟩
    · exact Database.table?_setTable ht rfl

/-- **A table and a memory store that hold the same paths answer a question alike**, and hold the
same paths afterwards. -/
theorem Holds.asked (h : s.Holds paths) (hm : m.Holds paths) (hl : paths.length < issuable)
    (q : Query) : q.Alike (source.ask q s).1 (MemoryStore.source.ask q m).1 ∧
      ∃ after, (source.ask q s).2.Holds after ∧ (MemoryStore.source.ask q m).2.Holds after := by
  cases q with
  | fsidOf path => exact ⟨h.fsidOf hm, paths, h, hm⟩
  | allocate path => exact h.allocate hm hl
  | pathOf fsid => exact ⟨h.pathOf hm, paths, h, hm⟩

end SqlStore

/-! ## Histories -/

/-- What is done to a store over a table. -/
inductive TableCall
  | asks (query : Query)
  /-- The table is created, unless it is there. -/
  | creates

/-- The store after some calls. -/
def SqlStore.after (s : SqlStore) : List TableCall → SqlStore
  | [] => s
  | .asks q :: calls => SqlStore.after (SqlStore.source.ask q s).2 calls
  | .creates :: calls => SqlStore.after (s.createTable.toOption.getD s) calls

/-- The store after the questions among some calls.  There is no table to be created. -/
def MemoryStore.after (m : MemoryStore) : List TableCall → MemoryStore
  | [] => m
  | .asks q :: calls => MemoryStore.after (MemoryStore.source.ask q m).2 calls
  | .creates :: calls => MemoryStore.after m calls

theorem MemoryStore.allocations_le_ask (m : MemoryStore) (q : Query) :
    m.allocations ≤ (MemoryStore.source.ask q m).2.allocations := by
  cases q with
  | fsidOf | pathOf => exact Nat.le_refl _
  | allocate path =>
    show m.allocations ≤ (m.allocate path).2.allocations
    unfold MemoryStore.allocate
    split
    · exact Nat.le_refl _
    · split
      · exact Nat.le_refl _
      · exact Nat.le_succ _

theorem MemoryStore.allocations_le_after (m : MemoryStore) (calls : List TableCall) :
    m.allocations ≤ (m.after calls).allocations := by
  induction calls generalizing m with
  | nil => exact Nat.le_refl _
  | cons call calls ih =>
    cases call with
    | asks q => exact Nat.le_trans (m.allocations_le_ask q) (ih _)
    | creates => exact ih m

namespace SqlStore

variable {s : SqlStore} {m : MemoryStore} {paths : List String}

/-- Two stores that hold the same paths still do so after any calls. -/
theorem Holds.after (h : s.Holds paths) (hm : m.Holds paths) {calls : List TableCall}
    (hl : (m.after calls).allocations < issuable) :
    ∃ paths', (s.after calls).Holds paths' ∧ (m.after calls).Holds paths' := by
  -- On the calls: a question changes both stores alike, and a creation neither.
  induction calls generalizing s m paths with
  | nil => exact ⟨paths, h, hm⟩
  | cons call calls ih =>
    cases call with
    | asks q =>
      have hlt : paths.length < issuable :=
        hm.allocations ▸ Nat.lt_of_le_of_lt (m.allocations_le_after (.asks q :: calls)) hl
      obtain ⟨_, paths', h', hm'⟩ := h.asked hm hlt q
      exact ih h' hm' hl
    | creates =>
      unfold SqlStore.after
      rw [h.createTable]
      exact ih h hm hl

/-- **A new table and a fresh memory store answer alike**, whatever has been asked of both before, as
long as the memory store has an fsid left; and creating the table once more changes nothing.  Every
table can be created but one whose name the database keeps for itself. -/
theorem answers_alike {d : OpenDatabase} {name : TableName} (hd : d.Writable)
    (hn : d.database.table? name.text = none) :
    ((∃ s, SqlStore.createTable ⟨name, d⟩ = .ok s) ↔
      OpenDatabase.isReserved name.text = false) ∧
    ∀ s, SqlStore.createTable ⟨name, d⟩ = .ok s → ∀ calls,
      (MemoryStore.empty.after calls).allocations < issuable →
      (∀ q : Query, q.Alike (source.ask q (s.after calls)).1
        (MemoryStore.source.ask q (MemoryStore.empty.after calls)).1) ∧
      (s.after calls).createTable = .ok (s.after calls) := by
  have hreserved : ∀ s, SqlStore.createTable ⟨name, d⟩ = .ok s →
      OpenDatabase.isReserved name.text = false := by
    intro s hs
    rw [Bool.eq_false_iff]
    intro hr
    obtain ⟨e, he⟩ := OpenDatabase.createTable_of_reserved hd hr
    rw [SqlStore.createTable, he] at hs
    cases hs
  refine ⟨⟨fun ⟨s, hs⟩ => hreserved s hs, fun hr => ?_⟩, fun s hs calls hl => ?_⟩
  · obtain ⟨s, hs, _⟩ := holds_of_createTable hd hr hn
    exact ⟨s, hs⟩
  · obtain ⟨s', hs', h⟩ := holds_of_createTable hd (hreserved s hs) hn
    obtain rfl : s' = s := Except.ok.inj (hs'.symm.trans hs)
    obtain ⟨paths, h, hm⟩ := h.after MemoryStore.holds_empty hl
    have hlt : paths.length < issuable := hm.allocations ▸ hl
    exact ⟨fun q => (h.asked hm hlt q).1, h.createTable⟩

/-- A path comes twice, and the table is created again in between. -/
theorem answers_alike_after_conflict :
    ∃ s, SqlStore.createTable ⟨⟨"fsids", by decide⟩, { database := .empty }⟩ = .ok s ∧
      let calls : List TableCall := [.asks (.allocate "/a"), .creates, .asks (.allocate "/a")]
      (MemoryStore.empty.after calls).allocations = 1 ∧
      Query.Alike (.allocate "/a") (source.ask (.allocate "/a") (s.after calls)).1
        (MemoryStore.source.ask (.allocate "/a") (MemoryStore.empty.after calls)).1 ∧
      Query.Alike (.allocate "/b") (source.ask (.allocate "/b") (s.after calls)).1
        (MemoryStore.source.ask (.allocate "/b") (MemoryStore.empty.after calls)).1 := by
  let name : TableName := ⟨"fsids", by decide⟩
  let d : OpenDatabase := { database := .empty }
  have hd : d.Writable := ⟨rfl, rfl, rfl⟩
  have hn : d.database.table? name.text = none := rfl
  have h := answers_alike hd hn
  obtain ⟨s, hs⟩ := h.1.mpr (by decide +kernel)
  have hone : (MemoryStore.empty.after [.asks (.allocate "/a"), .creates,
      .asks (.allocate "/a")]).allocations = 1 := by decide +kernel
  have halike := (h.2 s hs _ (by rw [hone]; decide)).1
  exact ⟨s, hs, hone, halike _, halike _⟩

end SqlStore

end FsidRegistry
