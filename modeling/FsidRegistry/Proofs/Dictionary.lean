import Mathlib.Data.List.Nodup
import Mathlib.Data.List.Perm.Basic
import Mathlib.Data.Prod.Basic
import FsidRegistry.Dictionary

/-!
# Entries of finite maps

* `Dictionary.mem_entries_iff`: the entries are the keys with their values.
* `Dictionary.get?_insert_of_agree`: an insert that agrees with what is there only adds an entry.
* `Dictionary.exists_get?_insert`, `Dictionary.exists_get?_modify`: what a change leaves of the value
  of a key.
* `Dictionary.size_eq_of_contains`, `Dictionary.size_eq_of_inverse`: the size of a map with known
  keys, and of a map that is inverse to another one.
* `Dictionary.Numbered.insert_size`: a map whose keys are the numbers below its size.
* `Dictionary.insert_self`, `Dictionary.erase_eq_self`, `Dictionary.findSome?_eq_of_only`: an insert and
  a removal that change nothing, and a search that only one entry can end.
-/

namespace FsidRegistry

namespace Dictionary

variable {κ ν α : Type} [DecidableEq κ]

theorem find?_of_mem {es : List (κ × ν)} (hn : (es.map Prod.fst).Nodup) {e : κ × ν} (he : e ∈ es) :
    find? e.1 es = some e.2 := by
  induction es with
  | nil => cases he
  | cons e' es ih =>
    obtain ⟨hnot, hn⟩ := List.nodup_cons.mp hn
    rcases List.mem_cons.mp he with rfl | he
    · exact if_pos rfl
    · have hne : e'.1 ≠ e.1 := by
        intro hkey
        exact hnot (hkey ▸ List.mem_map_of_mem he)
      exact (if_neg hne).trans (ih hn he)

theorem mem_of_find? {es : List (κ × ν)} {k : κ} {v : ν} (h : find? k es = some v) : (k, v) ∈ es := by
  induction es with
  | nil => cases h
  | cons e es ih =>
    by_cases hk : e.1 = k
    · have hv : e.2 = v := Option.some.inj ((if_pos hk).symm.trans h)
      rw [← hk, ← hv]
      exact List.mem_cons_self
    · exact List.mem_cons_of_mem _ (ih ((if_neg hk).symm.trans h))

/-- The entries of a map are its keys with their values. -/
theorem mem_entries_iff {d : Dictionary κ ν} {k : κ} {v : ν} :
    (k, v) ∈ d.entries ↔ d.get? k = some v :=
  ⟨fun h => find?_of_mem d.keys_nodup h, mem_of_find?⟩

omit [DecidableEq κ] in
theorem nodup_entries (d : Dictionary κ ν) : d.entries.Nodup :=
  List.Nodup.of_map Prod.fst d.keys_nodup

theorem contains_eq_false_iff {d : Dictionary κ ν} {k : κ} :
    ¬ d.contains k = true ↔ d.get? k = none := by
  rw [contains, Option.not_isSome_iff_eq_none]

/-- An insert that agrees with what is there only adds an entry. -/
theorem get?_insert_of_agree {d : Dictionary κ ν} {k x : κ} {v y : ν}
    (h : ∀ w, d.get? k = some w → w = v) :
    (d.insert k v).get? x = some y ↔ d.get? x = some y ∨ (x = k ∧ y = v) := by
  rw [get?_insert]
  by_cases hx : k = x
  · subst hx
    rw [if_pos rfl]
    constructor
    · intro hy
      exact Or.inr ⟨rfl, (Option.some.inj hy).symm⟩
    · rintro (hy | ⟨_, rfl⟩)
      · rw [h y hy]
      · rfl
  · rw [if_neg hx]
    exact ⟨Or.inl, fun hy => hy.resolve_right fun he => hx he.1.symm⟩

/-- A key that has a value keeps one in an insert. -/
theorem exists_get?_insert {d : Dictionary κ ν} {k x : κ} {v w : ν} {p : ν → Prop}
    (hw : d.get? x = some w) (hself : k = x → p v) (hother : k ≠ x → p w) :
    ∃ y, (d.insert k v).get? x = some y ∧ p y := by
  rw [get?_insert]
  by_cases hk : k = x
  · exact ⟨v, if_pos hk, hself hk⟩
  · exact ⟨w, by rw [if_neg hk, hw], hother hk⟩

/-- A key stays one in an insert. -/
theorem exists_get?_of_insert {d : Dictionary κ ν} {x : κ} {w : ν} (hw : d.get? x = some w) (k : κ)
    (v : ν) : ∃ y, (d.insert k v).get? x = some y := by
  rw [get?_insert]
  by_cases hk : k = x
  · exact ⟨v, if_pos hk⟩
  · exact ⟨w, by rw [if_neg hk, hw]⟩

theorem exists_get?_modify {d : Dictionary κ ν} {k x : κ} {f : ν → ν} {w : ν} {p : ν → Prop}
    (hw : d.get? x = some w) (hself : k = x → p (f w)) (hother : k ≠ x → p w) :
    ∃ y, (d.modify k f).get? x = some y ∧ p y := by
  rw [get?_modify, hw]
  by_cases hk : k = x
  · exact ⟨f w, if_pos hk, hself hk⟩
  · exact ⟨w, if_neg hk, hother hk⟩

/-- A map whose keys are those of a list without repetition is of its length. -/
theorem size_eq_of_contains {d : Dictionary κ ν} {ks : List κ} (hn : ks.Nodup)
    (h : ∀ k, d.contains k = true ↔ k ∈ ks) : d.size = ks.length := by
  have hmem : ∀ k, k ∈ d.entries.map Prod.fst ↔ k ∈ ks := by
    intro k
    rw [← h, contains, Option.isSome_iff_exists, List.mem_map]
    constructor
    · rintro ⟨⟨k', v⟩, he, rfl⟩
      exact ⟨v, mem_entries_iff.mp he⟩
    · rintro ⟨v, hv⟩
      exact ⟨(k, v), mem_entries_iff.mpr hv, rfl⟩
  have hperm : (d.entries.map Prod.fst).Perm ks :=
    (List.perm_ext_iff_of_nodup d.keys_nodup hn).mpr hmem
  calc
    d.size = (d.entries.map Prod.fst).length := (List.length_map _).symm
    _ = ks.length := hperm.length_eq

/-- Two maps that are inverse to each other have the same entries, turned around. -/
theorem size_eq_of_inverse [DecidableEq ν] {d : Dictionary κ ν} {e : Dictionary ν κ}
    (h : ∀ k v, d.get? k = some v ↔ e.get? v = some k) : d.size = e.size := by
  have hmem : ∀ x, x ∈ d.entries ↔ x ∈ e.entries.map Prod.swap := by
    rintro ⟨k, v⟩
    rw [mem_entries_iff, h, ← mem_entries_iff, List.mem_map]
    constructor
    · intro hx
      exact ⟨(v, k), hx, rfl⟩
    · rintro ⟨⟨v', k'⟩, hx, he⟩
      cases he
      exact hx
  have hperm : d.entries.Perm (e.entries.map Prod.swap) :=
    (List.perm_ext_iff_of_nodup d.nodup_entries
      (List.Nodup.map Prod.swap_injective e.nodup_entries)).mpr hmem
  calc
    d.size = (e.entries.map Prod.swap).length := hperm.length_eq
    _ = e.size := List.length_map _

/-! ## Numbered entries -/

/-- The keys of a map are the numbers below its size. -/
def Numbered (d : Dictionary Nat ν) : Prop := ∀ k, d.contains k = true ↔ k < d.size

theorem numbered_of_contains {d : Dictionary Nat ν} {n : Nat}
    (h : ∀ k, d.contains k = true ↔ k < n) : d.Numbered := by
  have hsize : d.size = n := by
    rw [size_eq_of_contains List.nodup_range fun k => (h k).trans List.mem_range.symm,
      List.length_range]
  rwa [Numbered, hsize]

theorem numbered_empty : (∅ : Dictionary Nat ν).Numbered :=
  numbered_of_contains (n := 0) fun k => by simp [contains]

theorem contains_insert {d : Dictionary κ ν} {k x : κ} {v : ν} :
    (d.insert k v).contains x = true ↔ k = x ∨ d.contains x = true := by
  rw [contains, get?_insert]
  by_cases hx : k = x
  · simp [hx]
  · simp [hx, contains]

/-- The size is the number of the next entry. -/
theorem Numbered.insert_size {d : Dictionary Nat ν} (h : d.Numbered) (v : ν) :
    (d.insert d.size v).Numbered := by
  refine numbered_of_contains (n := d.size + 1) fun k => ?_
  rw [contains_insert, h k]
  omega

theorem Numbered.insert_of_get? {d : Dictionary Nat ν} (h : d.Numbered) {k : Nat} {w : ν}
    (hk : d.get? k = some w) (v : ν) : (d.insert k v).Numbered := by
  have hlt : k < d.size := (h k).mp (by rw [contains, hk]; rfl)
  refine numbered_of_contains (n := d.size) fun x => ?_
  rw [contains_insert, h x]
  omega

theorem Numbered.get?_size {d : Dictionary Nat ν} (h : d.Numbered) : d.get? d.size = none :=
  contains_eq_false_iff.mp fun hc => Nat.lt_irrefl _ ((h _).mp hc)

/-! ## Changes that change nothing -/

theorem put_self {k : κ} {v : ν} {es : List (κ × ν)} (hk : find? k es = some v) :
    put k v es = es := by
  induction es with
  | nil => cases hk
  | cons e es ih =>
    obtain ⟨k', v'⟩ := e
    by_cases hkey : k' = k
    · have hv : v' = v := Option.some.inj ((if_pos hkey).symm.trans hk)
      rw [put, if_pos hkey, hv]
    · rw [put, if_neg hkey, ih ((if_neg hkey).symm.trans hk)]

theorem insert_self {d : Dictionary κ ν} {k : κ} {v : ν} (hk : d.get? k = some v) :
    d.insert k v = d := by
  obtain ⟨es, hn⟩ := d
  have hput : put k v es = es := put_self hk
  unfold insert
  congr

theorem without_eq_self {k : κ} {es : List (κ × ν)} (hk : find? k es = none) :
    without k es = es := by
  induction es with
  | nil => rfl
  | cons e es ih =>
    have hne : e.1 ≠ k := by
      intro hkey
      rw [find?, if_pos hkey] at hk
      cases hk
    rw [find?, if_neg hne] at hk
    unfold without at ih ⊢
    rw [List.filter_cons_of_pos (by simpa using hne), ih hk]

/-- A key that has no value need not be removed. -/
theorem erase_eq_self {d : Dictionary κ ν} {k : κ} (hk : d.get? k = none) : d.erase k = d := by
  obtain ⟨es, hn⟩ := d
  have hwithout : without k es = es := without_eq_self hk
  unfold erase
  congr

/-- The first result is that of the only entry that may have one. -/
theorem findSome?_eq_of_only {es : List (κ × ν)} {f : κ × ν → Option α} {k : κ} {v : ν}
    (hk : find? k es = some v) (hf : ∀ e ∈ es, e.1 ≠ k → f e = none)
    (hn : (es.map Prod.fst).Nodup) : es.findSome? f = f (k, v) := by
  induction es with
  | nil => cases hk
  | cons e es ih =>
    obtain ⟨hnot, hrest⟩ := List.nodup_cons.mp hn
    obtain ⟨k', v'⟩ := e
    rw [List.findSome?_cons]
    by_cases hkey : k' = k
    · subst hkey
      have hv : v' = v := Option.some.inj ((if_pos rfl).symm.trans hk)
      have hnone : es.findSome? f = none := by
        refine List.findSome?_eq_none_iff.mpr fun e he => hf e (List.mem_cons_of_mem _ he) ?_
        intro hkey
        have hmem := List.mem_map_of_mem (f := Prod.fst) he
        rw [hkey] at hmem
        exact hnot hmem
      rw [hv, hnone]
      cases f (k', v) <;> rfl
    · rw [hf _ List.mem_cons_self hkey]
      exact ih ((if_neg hkey).symm.trans hk) (fun e he => hf e (List.mem_cons_of_mem _ he)) hrest

end Dictionary

end FsidRegistry
