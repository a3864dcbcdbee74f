import BranchLock.Store.Range

/-!
# Contents of a key/value engine

The committed contents of an engine are a finite map from keys to values, kept as a list of
entries in strictly ascending bytewise key order, so that a range scan is the sublist of entries
in the range, already in scan order. `put` overwrites the value of a key present and `erase`
removes every entry of a key; a write to the map is one of the two, and a committed batch of
writes applies them in order.

Insertion and removal keep the keys ascending (`sorted_insert`, `sorted_remove`), and entries
with ascending keys are determined by what they give each key (`eq_of_lookup_eq`). Renaming
every key by an injection that keeps the order commutes with both writes (`insert_rename`,
`remove_rename`): that is how a map kept under prefixed keys is read as a map of its own.
-/

namespace BranchLock

/-- The committed contents of an engine, in ascending key order. -/
structure Contents where
  /-- The entries, keys strictly ascending. -/
  entries : List (Bytes × Bytes) := []
  deriving DecidableEq, Repr

/-- One write of a batch. -/
inductive Write where
  /-- Sets a key to a value. -/
  | put (key value : Bytes)
  /-- Removes a key. -/
  | delete (key : Bytes)
  deriving DecidableEq, Repr

namespace Contents

variable {α β : Type}

/-- The value under a key in a list of entries. -/
def lookup (key : Bytes) : List (Bytes × α) → Option α
  | [] => none
  | (k, v) :: rest => if key = k then some v else lookup key rest

/-- Ordered insertion, overwriting the value of a key present. -/
def insert (key : Bytes) (value : α) : List (Bytes × α) → List (Bytes × α)
  | [] => [(key, value)]
  | (k, v) :: rest =>
    if key = k then (key, value) :: rest
    else if Bytes.lt key k then (key, value) :: (k, v) :: rest
    else (k, v) :: insert key value rest

/-- Removes every entry of a key. -/
def remove (key : Bytes) : List (Bytes × α) → List (Bytes × α)
  | [] => []
  | (k, v) :: rest => if key = k then remove key rest else (k, v) :: remove key rest

/-- The value under a key. -/
def find? (c : Contents) (key : Bytes) : Option Bytes := lookup key c.entries

/-- Sets a key to a value. -/
def put (c : Contents) (key value : Bytes) : Contents := ⟨insert key value c.entries⟩

/-- Removes a key. -/
def erase (c : Contents) (key : Bytes) : Contents := ⟨remove key c.entries⟩

/-- Applies one write. -/
def apply (c : Contents) : Write → Contents
  | .put k v => c.put k v
  | .delete k => c.erase k

/-- Applies writes in order. -/
def applyAll (c : Contents) (ws : List Write) : Contents := ws.foldl apply c

/-- The entries in a range, in ascending key order. -/
def scan (c : Contents) (r : KeyRange) : List (Bytes × Bytes) :=
  c.entries.filter fun e => r.contains e.1

/-- After a key is inserted, looking it up finds the value inserted. -/
theorem lookup_insert_same (key : Bytes) (value : α) (es : List (Bytes × α)) :
    lookup key (insert key value es) = some value := by
  induction es with
  | nil => simp [insert, lookup]
  | cons e rest ih =>
    obtain ⟨k, v⟩ := e
    by_cases hk : key = k
    · simp [insert, lookup, hk]
    · by_cases hl : Bytes.lt key k = true <;> simp [insert, lookup, hk, hl, ih]

/-- After a key is removed, looking it up finds nothing. -/
theorem lookup_remove_same (key : Bytes) (es : List (Bytes × α)) :
    lookup key (remove key es) = none := by
  induction es with
  | nil => simp [remove, lookup]
  | cons e rest ih =>
    obtain ⟨k, v⟩ := e
    by_cases hk : key = k
    · simpa [remove, hk] using ih
    · simp [remove, lookup, hk, ih]

/-- Inserting under one key leaves the value under every other key. -/
theorem lookup_insert_of_ne {key k : Bytes} (hk : k ≠ key) (value : α)
    (es : List (Bytes × α)) :
    lookup k (insert key value es) = lookup k es := by
  induction es with
  | nil => simp [insert, lookup, hk]
  | cons e rest ih =>
    obtain ⟨k', v⟩ := e
    by_cases hkey : key = k'
    · subst hkey
      simp [insert, lookup, hk]
    · by_cases hl : Bytes.lt key k' = true <;> simp [insert, lookup, hkey, hl, hk, ih]

/-- Removing one key leaves the value under every other key. -/
theorem lookup_remove_of_ne {key k : Bytes} (hk : k ≠ key) (es : List (Bytes × α)) :
    lookup k (remove key es) = lookup k es := by
  induction es with
  | nil => rfl
  | cons e rest ih =>
    obtain ⟨k', v⟩ := e
    by_cases hkey : key = k'
    · subst hkey
      simp [remove, lookup, hk, ih]
    · simp [remove, lookup, hkey, ih]

/-- A value found under a key is an entry of the list. -/
theorem mem_of_lookup {key : Bytes} {v : α} {es : List (Bytes × α)}
    (h : lookup key es = some v) : (key, v) ∈ es := by
  induction es with
  | nil => cases h
  | cons e rest ih =>
    obtain ⟨k, w⟩ := e
    unfold lookup at h
    split at h
    · rename_i hk
      cases h
      simp [hk]
    · exact List.mem_cons_of_mem _ (ih h)

/-- Insertion adds the new entry and keeps only old ones. -/
theorem mem_insert {key : Bytes} {value : α} {es : List (Bytes × α)} {p : Bytes × α}
    (h : p ∈ insert key value es) : p = (key, value) ∨ p ∈ es := by
  induction es with
  | nil => simpa [insert] using h
  | cons e rest ih =>
    obtain ⟨k, v⟩ := e
    unfold insert at h
    split at h
    · rcases List.mem_cons.1 h with rfl | h
      · exact Or.inl rfl
      · exact Or.inr (List.mem_cons_of_mem _ h)
    · split at h
      · rcases List.mem_cons.1 h with rfl | h
        · exact Or.inl rfl
        · exact Or.inr h
      · rcases List.mem_cons.1 h with rfl | h
        · exact Or.inr List.mem_cons_self
        · exact (ih h).imp id (List.mem_cons_of_mem _)

/-- Removal keeps only old entries of other keys. -/
theorem mem_remove {key : Bytes} {es : List (Bytes × α)} {p : Bytes × α}
    (h : p ∈ remove key es) : p ∈ es ∧ p.1 ≠ key := by
  induction es with
  | nil => cases h
  | cons e rest ih =>
    obtain ⟨k, v⟩ := e
    unfold remove at h
    split at h
    · exact (ih h).imp_left (List.mem_cons_of_mem _)
    · rename_i hk
      rcases List.mem_cons.1 h with rfl | h
      · exact ⟨List.mem_cons_self, Ne.symm hk⟩
      · exact (ih h).imp_left (List.mem_cons_of_mem _)

/-! ### Keys in ascending order -/

/-- Entries whose keys are strictly ascending. -/
def Sorted (es : List (Bytes × α)) : Prop := es.Pairwise fun a b => Bytes.lt a.1 b.1 = true

/-- Insertion keeps the keys strictly ascending. -/
theorem sorted_insert (key : Bytes) (value : α) {es : List (Bytes × α)} (h : Sorted es) :
    Sorted (insert key value es) := by
  induction es with
  | nil => exact List.pairwise_singleton _ _
  | cons e rest ih =>
    obtain ⟨k, v⟩ := e
    obtain ⟨hhead, htail⟩ := List.pairwise_cons.1 h
    unfold insert
    split
    · rename_i hk
      subst hk
      exact List.pairwise_cons.2 ⟨hhead, htail⟩
    · split
      · -- the new key goes first, below `k` and so below every later key
        rename_i hl
        refine List.pairwise_cons.2 ⟨fun p hp => ?_, h⟩
        rcases List.mem_cons.1 hp with rfl | hp
        · exact hl
        · exact Bytes.lt_trans hl (hhead p hp)
      · -- the new key goes after `k`
        rename_i hk hl
        have hgt : Bytes.lt k key = true :=
          (Bytes.lt_or_lt_of_ne hk).resolve_left hl
        refine List.pairwise_cons.2 ⟨fun p hp => ?_, ih htail⟩
        rcases mem_insert hp with rfl | hp
        · exact hgt
        · exact hhead p hp

/-- Removal keeps the keys strictly ascending. -/
theorem sorted_remove (key : Bytes) {es : List (Bytes × α)} (h : Sorted es) :
    Sorted (remove key es) := by
  induction es with
  | nil => exact List.Pairwise.nil
  | cons e rest ih =>
    obtain ⟨k, v⟩ := e
    obtain ⟨hhead, htail⟩ := List.pairwise_cons.1 h
    unfold remove
    split
    · exact ih htail
    · exact List.pairwise_cons.2 ⟨fun p hp => hhead p (mem_remove hp).1, ih htail⟩

/-- A key that no entry has has no value. -/
theorem lookup_eq_none {key : Bytes} {es : List (Bytes × α)} (h : ∀ p ∈ es, p.1 ≠ key) :
    lookup key es = none := by
  induction es with
  | nil => rfl
  | cons e rest ih =>
    obtain ⟨k, v⟩ := e
    have hk : key ≠ k := fun hk => h (k, v) List.mem_cons_self hk.symm
    simp [lookup, hk, ih fun p hp => h p (List.mem_cons_of_mem _ hp)]

/-- In entries with ascending keys, the first key has no value further on. -/
theorem lookup_tail_eq_none {k : Bytes} {v : α} {rest : List (Bytes × α)}
    (h : Sorted ((k, v) :: rest)) : lookup k rest = none :=
  lookup_eq_none fun p hp hpk => by simpa [hpk] using (List.pairwise_cons.1 h).1 p hp

/-- In entries with ascending keys, a key below the first has no value. -/
theorem lookup_eq_none_of_lt {key k : Bytes} {v : α} {rest : List (Bytes × α)}
    (h : Sorted ((k, v) :: rest)) (hlt : Bytes.lt key k = true) :
    lookup key ((k, v) :: rest) = none := by
  refine lookup_eq_none fun p hp hpk => ?_
  have hge : p.1 = k ∨ Bytes.lt k p.1 = true := by
    rcases List.mem_cons.1 hp with rfl | hp
    · exact Or.inl rfl
    · exact Or.inr ((List.pairwise_cons.1 h).1 p hp)
  rw [hpk] at hge
  rcases hge with rfl | hge
  · simp at hlt
  · simpa using Bytes.lt_trans hlt hge

/-- Entries with ascending keys are determined by the values they give each key. -/
theorem eq_of_lookup_eq {es es' : List (Bytes × α)} (hs : Sorted es) (hs' : Sorted es')
    (h : ∀ key, lookup key es = lookup key es') : es = es' := by
  induction es generalizing es' with
  | nil =>
    cases es' with
    | nil => rfl
    | cons e' rest' => simpa [lookup] using h e'.1
  | cons e rest ih =>
    obtain ⟨k, v⟩ := e
    cases es' with
    | nil => simpa [lookup] using h k
    | cons e' rest' =>
      obtain ⟨k', v'⟩ := e'
      -- the first keys agree: the smaller one would have a value in one list only
      have hk : k = k' := by
        refine Classical.byContradiction fun hne => ?_
        rcases Bytes.lt_or_lt_of_ne hne with hlt | hlt
        · have hkv := h k
          rw [lookup_eq_none_of_lt hs' hlt] at hkv
          simp [lookup] at hkv
        · have hkv := h k'
          rw [lookup_eq_none_of_lt hs hlt] at hkv
          simp [lookup] at hkv
      subst hk
      have hv : v = v' := by simpa [lookup] using h k
      subst hv
      -- past the first key, the rests give every key the same value
      have hrest : ∀ key, lookup key rest = lookup key rest' := by
        intro key
        by_cases hkey : key = k
        · rw [hkey, lookup_tail_eq_none hs, lookup_tail_eq_none hs']
        · simpa [lookup, hkey] using h key
      rw [ih (List.pairwise_cons.1 hs).2 (List.pairwise_cons.1 hs').2 hrest]

/-! ### Renaming the keys -/

section Rename

variable {key : Bytes → Bytes} {val : α → β}

/-- The entries with every key renamed by `key` and every value mapped by `val`. -/
def rename (key : Bytes → Bytes) (val : α → β) (es : List (Bytes × α)) : List (Bytes × β) :=
  es.map fun p => (key p.1, val p.2)

/-- Under an injective renaming, the value under a renamed key is the renamed value. -/
theorem lookup_rename (hinj : Function.Injective key) (k : Bytes) (es : List (Bytes × α)) :
    lookup (key k) (rename key val es) = (lookup k es).map val := by
  induction es with
  | nil => rfl
  | cons e rest ih =>
    obtain ⟨k', v⟩ := e
    by_cases hk : k = k'
    · subst hk
      simp [rename, lookup]
    · have hne : key k ≠ key k' := fun h => hk (hinj h)
      simpa [rename, lookup, hk, hne] using ih

/-- Under an injective renaming that keeps the order, insertion commutes with renaming. -/
theorem insert_rename (hinj : Function.Injective key)
    (hlt : ∀ a b, Bytes.lt (key a) (key b) = Bytes.lt a b) (k : Bytes) (v : α)
    (es : List (Bytes × α)) :
    insert (key k) (val v) (rename key val es) = rename key val (insert k v es) := by
  induction es with
  | nil => rfl
  | cons e rest ih =>
    obtain ⟨k', v'⟩ := e
    by_cases hk : k = k'
    · subst hk
      simp [rename, insert]
    · have hne : key k ≠ key k' := fun h => hk (hinj h)
      by_cases hl : Bytes.lt k k' = true
      · simp [rename, insert, hk, hne, hl, hlt]
      · simp only [rename] at ih
        simp [rename, insert, hk, hne, hl, hlt, ih]

/-- Under an injective renaming, removal commutes with renaming. -/
theorem remove_rename (hinj : Function.Injective key) (k : Bytes) (es : List (Bytes × α)) :
    remove (key k) (rename key val es) = rename key val (remove k es) := by
  induction es with
  | nil => rfl
  | cons e rest ih =>
    obtain ⟨k', v'⟩ := e
    by_cases hk : k = k'
    · subst hk
      simpa [rename, remove] using ih
    · have hne : key k ≠ key k' := fun h => hk (hinj h)
      simp only [rename] at ih
      simp [rename, remove, hk, hne, ih]

end Rename

/-- A value put is found again. -/
theorem find?_put_same (c : Contents) (key value : Bytes) :
    (c.put key value).find? key = some value :=
  lookup_insert_same key value c.entries

/-- A key erased is gone. -/
theorem find?_erase_same (c : Contents) (key : Bytes) : (c.erase key).find? key = none :=
  lookup_remove_same key c.entries

end Contents

end BranchLock
