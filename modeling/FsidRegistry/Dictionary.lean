/-!
Finite maps as lists of pairs with distinct keys, in the order in which the keys first came.
-/

namespace FsidRegistry

/-- A finite map. -/
structure Dictionary (κ ν : Type) where
  entries : List (κ × ν)
  keys_nodup : (entries.map Prod.fst).Nodup
deriving DecidableEq

namespace Dictionary

variable {κ ν : Type}

/-- The map without entries. -/
def empty : Dictionary κ ν := ⟨[], List.nodup_nil⟩

instance : EmptyCollection (Dictionary κ ν) := ⟨empty⟩
instance : Inhabited (Dictionary κ ν) := ⟨empty⟩

/-- How many keys the map has. -/
def size (d : Dictionary κ ν) : Nat := d.entries.length

/-- The keys, oldest first. -/
def keys (d : Dictionary κ ν) : List κ := d.entries.map Prod.fst

variable [DecidableEq κ]

/-- The value that a list of pairs has first for `k`. -/
def find? (k : κ) : List (κ × ν) → Option ν
  | [] => none
  | (k', v) :: r => if k' = k then some v else find? k r

/-- The pairs with the value of `k` set to `v`. -/
def put (k : κ) (v : ν) : List (κ × ν) → List (κ × ν)
  | [] => [(k, v)]
  | (k', v') :: r => if k' = k then (k', v) :: r else (k', v') :: put k v r

/-- The pairs whose key is not `k`. -/
def without (k : κ) (es : List (κ × ν)) : List (κ × ν) :=
  es.filter fun e => e.1 ≠ k

theorem mem_keys_put {k x : κ} {v : ν} {es : List (κ × ν)} :
    x ∈ (put k v es).map Prod.fst ↔ x = k ∨ x ∈ es.map Prod.fst := by
  induction es with
  | nil => simp [put]
  | cons e r ih =>
    obtain ⟨k', v'⟩ := e
    by_cases h : k' = k
    · simp [put, h]
    · simp only [put, h, if_false, List.map_cons, List.mem_cons, ih]
      exact or_left_comm

theorem nodup_put {k : κ} {v : ν} {es : List (κ × ν)} (h : (es.map Prod.fst).Nodup) :
    ((put k v es).map Prod.fst).Nodup := by
  induction es with
  | nil => simp [put]
  | cons e r ih =>
    obtain ⟨k', v'⟩ := e
    simp only [List.map_cons, List.nodup_cons] at h
    by_cases hk : k' = k
    · simpa only [put, hk, if_true, List.map_cons, List.nodup_cons] using hk ▸ h
    · simp only [put, hk, if_false, List.map_cons, List.nodup_cons]
      refine ⟨fun hm => ?_, ih h.2⟩
      rcases mem_keys_put.1 hm with rfl | hm
      · exact hk rfl
      · exact h.1 hm

theorem nodup_without {k : κ} {es : List (κ × ν)} (h : (es.map Prod.fst).Nodup) :
    ((without k es).map Prod.fst).Nodup :=
  h.sublist (List.filter_sublist.map _)

/-- The value of `k`. -/
def get? (d : Dictionary κ ν) (k : κ) : Option ν := find? k d.entries

/-- Whether `k` has a value. -/
def contains (d : Dictionary κ ν) (k : κ) : Bool := (d.get? k).isSome

/-- Sets the value of `k`. -/
def insert (d : Dictionary κ ν) (k : κ) (v : ν) : Dictionary κ ν :=
  ⟨put k v d.entries, nodup_put d.keys_nodup⟩

/-- Removes `k` and its value. -/
def erase (d : Dictionary κ ν) (k : κ) : Dictionary κ ν :=
  ⟨without k d.entries, nodup_without d.keys_nodup⟩

/-- Changes the value of `k`, if it has one. -/
def modify (d : Dictionary κ ν) (k : κ) (f : ν → ν) : Dictionary κ ν :=
  match d.get? k with
  | some v => d.insert k (f v)
  | none => d

/-- Changes every value. -/
def map (d : Dictionary κ ν) (f : ν → ν) : Dictionary κ ν :=
  ⟨d.entries.map fun e => (e.1, f e.2), by
    simpa only [List.map_map, Function.comp_def] using d.keys_nodup⟩

@[simp] theorem get?_empty (k : κ) : (∅ : Dictionary κ ν).get? k = none := rfl

theorem find?_put (k x : κ) (v : ν) (es : List (κ × ν)) :
    find? x (put k v es) = if k = x then some v else find? x es := by
  induction es with
  | nil => simp [put, find?]
  | cons e r ih =>
    obtain ⟨k', v'⟩ := e
    by_cases hk : k' = k
    · subst hk
      by_cases hx : k' = x <;> simp [put, find?, hx]
    · by_cases hx : k' = x
      · subst hx
        simp [put, find?, hk, Ne.symm hk]
      · simp [put, find?, hk, hx, ih]

theorem find?_without (k x : κ) (es : List (κ × ν)) :
    find? x (without k es) = if k = x then none else find? x es := by
  induction es with
  | nil => simp [without, find?]
  | cons e r ih =>
    obtain ⟨k', v'⟩ := e
    unfold without at ih ⊢
    by_cases hk : k' = k
    · subst hk
      by_cases hx : k' = x <;> simp_all [find?]
    · by_cases hx : k' = x
      · subst hx
        simp [find?, hk, Ne.symm hk]
      · simpa [find?, hk, hx] using ih

@[simp] theorem get?_insert (d : Dictionary κ ν) (k x : κ) (v : ν) :
    (d.insert k v).get? x = if k = x then some v else d.get? x :=
  find?_put k x v d.entries

@[simp] theorem get?_erase (d : Dictionary κ ν) (k x : κ) :
    (d.erase k).get? x = if k = x then none else d.get? x :=
  find?_without k x d.entries

@[simp] theorem get?_modify (d : Dictionary κ ν) (k x : κ) (f : ν → ν) :
    (d.modify k f).get? x = if k = x then (d.get? x).map f else d.get? x := by
  unfold modify
  by_cases hx : k = x
  · subst hx
    cases h : d.get? k <;> simp [h]
  · cases h : d.get? k <;> simp [hx]

theorem find?_map (f : ν → ν) (x : κ) (es : List (κ × ν)) :
    find? x (es.map fun e => (e.1, f e.2)) = (find? x es).map f := by
  induction es with
  | nil => rfl
  | cons e r ih => by_cases h : e.1 = x <;> simp [find?, h, ih]

@[simp] theorem get?_map (d : Dictionary κ ν) (f : ν → ν) (x : κ) :
    (d.map f).get? x = (d.get? x).map f :=
  find?_map f x d.entries

end Dictionary

end FsidRegistry
