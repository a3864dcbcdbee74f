import BranchLock.Branch.Set

/-!
# The set cache

Sets read or written recently are kept by script hash in two parts: a recency list of at most
`limit` hashes, most recent first, that forgets the least recent hash when full, and a map from
hashes to sets that keeps a set after its hash is forgotten until the map is swept. The map is
swept, down to the hashes the recency list still holds, once it holds more than twice `limit`
sets.

So the two parts can disagree, and which one a question asks matters: *contains* asks the map
alone, while *lookup* answers a hash only when both hold it, and forgets it from the map when the
recency list has already forgotten it. Asking the recency list about a hash, as lookups and
sweeps do, makes that hash the most recent. A limit of zero caches nothing.
-/

namespace BranchLock

/-- Recently used sets by script hash. -/
structure SetCache where
  /-- The most hashes the recency list holds. -/
  limit : Nat
  /-- The hashes of the recency list, most recent first. -/
  recent : List Bytes := []
  /-- The sets kept, by hash. -/
  sets : List (Bytes × BranchSet) := []

namespace SetCache

/-- Makes a hash the most recent one, if the recency list holds it. -/
def touch (c : SetCache) (key : Bytes) : SetCache :=
  if c.recent.contains key then { c with recent := key :: c.recent.erase key } else c

/-- Adds a hash to the recency list as the most recent one, forgetting the least recent one
when the list is full. -/
def remember (c : SetCache) (key : Bytes) : SetCache :=
  if c.limit = 0 then c
  else if c.recent.contains key then c.touch key
  else if c.recent.length + 1 > c.limit then { c with recent := key :: c.recent.dropLast }
  else { c with recent := key :: c.recent }

/-- Asks the recency list about one kept hash: the hash becomes the most recent one if the
list holds it, and its set is dropped otherwise. -/
def sweepOne (c : SetCache) (key : Bytes) : SetCache :=
  if c.recent.contains key then c.touch key else { c with sets := c.sets.filter (·.1 ≠ key) }

/-- Drops the sets whose hashes the recency list has forgotten, asking it about each kept hash
in turn. -/
def sweep (c : SetCache) : SetCache := c.sets.foldl (fun c e => c.sweepOne e.1) c

/-- Keeps a set under its hash. -/
def add (c : SetCache) (key : Bytes) (set : BranchSet) : SetCache :=
  if c.limit = 0 then c
  else
    let c := c.remember key
    let sets : List (Bytes × BranchSet) :=
      if c.sets.any (·.1 = key) then c.sets.map fun (k, s) => (k, if k = key then set else s)
      else c.sets ++ [(key, set)]
    let c : SetCache := { c with sets := sets }
    if c.sets.length > 2 * c.limit then c.sweep else c

/-- The set kept under a hash, if both parts still hold the hash. -/
def lookup (c : SetCache) (key : Bytes) : Option BranchSet × SetCache :=
  match c.sets.find? (·.1 = key) with
  | none => (none, c)
  | some (_, s) =>
    if c.recent.contains key then (some s, c.touch key)
    else (none, { c with sets := c.sets.filter (·.1 ≠ key) })

/-- Whether the map keeps a set under a hash. -/
def contains (c : SetCache) (key : Bytes) : Bool := c.sets.any (·.1 = key)

/-- Forgets a hash in both parts. -/
def delete (c : SetCache) (key : Bytes) : SetCache :=
  { c with recent := c.recent.erase key, sets := c.sets.filter (·.1 ≠ key) }

/-! ## What each operation keeps

No operation changes the limit. Only `add` brings a set into the map, under the hash it is
given; every other operation keeps some of the sets it finds, and `delete` none of the hash it
forgets.
-/

/-- Using a key leaves the size limit. -/
@[simp] theorem limit_touch (c : SetCache) (key : Bytes) : (c.touch key).limit = c.limit := by
  unfold touch
  split <;> rfl

/-- Using a key leaves the map. -/
@[simp] theorem sets_touch (c : SetCache) (key : Bytes) : (c.touch key).sets = c.sets := by
  unfold touch
  split <;> rfl

/-- Remembering a key leaves the size limit. -/
@[simp] theorem limit_remember (c : SetCache) (key : Bytes) :
    (c.remember key).limit = c.limit := by
  unfold remember
  split
  · rfl
  · split
    · exact limit_touch c key
    · split <;> rfl

/-- Remembering a key leaves the map. -/
@[simp] theorem sets_remember (c : SetCache) (key : Bytes) : (c.remember key).sets = c.sets := by
  unfold remember
  split
  · rfl
  · split
    · exact sets_touch c key
    · split <;> rfl

/-- Sweeping one key leaves the size limit. -/
@[simp] theorem limit_sweepOne (c : SetCache) (key : Bytes) :
    (c.sweepOne key).limit = c.limit := by
  unfold sweepOne
  split
  · exact limit_touch c key
  · rfl

/-- Sweeping one key only ever drops entries of the map. -/
theorem mem_sweepOne {c : SetCache} {key : Bytes} {p : Bytes × BranchSet}
    (h : p ∈ (c.sweepOne key).sets) : p ∈ c.sets := by
  unfold sweepOne at h
  split at h
  · simpa using h
  · exact (List.mem_filter.1 h).1

/-- A sweep leaves the size limit. -/
@[simp] theorem limit_sweep (c : SetCache) : c.sweep.limit = c.limit := by
  -- the fold runs over the sets the sweep starts from, from any cache on
  have hfold : ∀ (L : List (Bytes × BranchSet)) (acc : SetCache),
      (L.foldl (fun c e => c.sweepOne e.1) acc).limit = acc.limit := by
    intro L
    induction L with
    | nil => exact fun _ => rfl
    | cons e L ih => exact fun acc => (ih _).trans (limit_sweepOne acc e.1)
  exact hfold _ _

/-- A sweep keeps only sets the map already had. -/
theorem mem_sweep {c : SetCache} {p : Bytes × BranchSet} (h : p ∈ c.sweep.sets) :
    p ∈ c.sets := by
  have hfold : ∀ (L : List (Bytes × BranchSet)) (acc : SetCache),
      p ∈ (L.foldl (fun c e => c.sweepOne e.1) acc).sets → p ∈ acc.sets := by
    intro L
    induction L with
    | nil => exact fun _ h => h
    | cons e L ih => exact fun acc h => mem_sweepOne (ih _ h)
  exact hfold _ _ h

/-- A sweep after an update, if there is one, keeps only sets of the update. -/
theorem mem_of_mem_sweep_if {c : SetCache} {b : Prop} [Decidable b] {p : Bytes × BranchSet}
    (h : p ∈ (if b then c.sweep else c).sets) : p ∈ c.sets := by
  split at h
  · exact mem_sweep h
  · exact h

/-- Adding a set leaves the size limit. -/
@[simp] theorem limit_add (c : SetCache) (key : Bytes) (set : BranchSet) :
    (c.add key set).limit = c.limit := by
  unfold add
  split
  · rfl
  · dsimp only
    split <;> split <;> simp only [limit_sweep, limit_remember]

/-- With a positive limit, `add` keeps the set under its hash and, under other hashes, only
sets the map already had. -/
theorem mem_add {c : SetCache} {key : Bytes} {set : BranchSet} {p : Bytes × BranchSet}
    (hpos : 0 < c.limit) (h : p ∈ (c.add key set).sets) :
    p = (key, set) ∨ (p ∈ c.sets ∧ p.1 ≠ key) := by
  unfold add at h
  rw [if_neg (by omega)] at h
  dsimp only at h
  rw [sets_remember] at h
  by_cases hany : c.sets.any (·.1 = key) = true
  · -- the hash is kept already: its set is replaced
    rw [if_pos hany] at h
    obtain ⟨⟨k, s⟩, hks, rfl⟩ := List.mem_map.1 (mem_of_mem_sweep_if h)
    by_cases hk : k = key
    · subst hk
      exact Or.inl (by simp)
    · exact Or.inr ⟨by simpa [hk] using hks, by simpa using hk⟩
  · -- the hash is new: its set is appended
    rw [if_neg hany] at h
    rcases List.mem_append.1 (mem_of_mem_sweep_if h) with hp | hp
    · have hk : p.1 ≠ key := fun hk => hany (List.any_eq_true.2 ⟨p, hp, by simp [hk]⟩)
      exact Or.inr ⟨hp, hk⟩
    · exact Or.inl (List.mem_singleton.1 hp)

/-- A lookup leaves the size limit. -/
@[simp] theorem limit_lookup (c : SetCache) (key : Bytes) : (c.lookup key).2.limit = c.limit := by
  unfold lookup
  split
  · rfl
  · split
    · exact limit_touch c key
    · rfl

/-- A lookup keeps only sets the map already had. -/
theorem mem_lookup {c : SetCache} {key : Bytes} {p : Bytes × BranchSet}
    (h : p ∈ (c.lookup key).2.sets) : p ∈ c.sets := by
  unfold lookup at h
  split at h
  · exact h
  · split at h
    · simpa using h
    · exact (List.mem_filter.1 h).1

/-- A set a lookup answers is kept in the map under the hash asked for. -/
theorem mem_of_lookup_eq_some {c : SetCache} {key : Bytes} {s : BranchSet}
    (h : (c.lookup key).1 = some s) : (key, s) ∈ c.sets := by
  unfold lookup at h
  split at h
  · cases h
  · rename_i k s' hfind
    split at h
    · cases h
      have hk : k = key := by simpa using List.find?_some hfind
      exact hk ▸ List.mem_of_find?_eq_some hfind
    · cases h

/-- The map keeps a set under every hash it contains. -/
theorem exists_of_contains {c : SetCache} {key : Bytes} (h : c.contains key = true) :
    ∃ s, (key, s) ∈ c.sets := by
  obtain ⟨⟨k, s⟩, hks, hk⟩ := List.any_eq_true.1 h
  have hk : k = key := by simpa using hk
  exact ⟨s, hk ▸ hks⟩

/-- Deleting a key leaves the size limit. -/
@[simp] theorem limit_delete (c : SetCache) (key : Bytes) : (c.delete key).limit = c.limit := rfl

/-- Deleting keeps only sets the map had under other hashes. -/
theorem mem_delete {c : SetCache} {key : Bytes} {p : Bytes × BranchSet}
    (h : p ∈ (c.delete key).sets) : p ∈ c.sets ∧ p.1 ≠ key := by
  have h := List.mem_filter.1 h
  exact ⟨h.1, by simpa using h.2⟩

/-- An add keeps the set under its hash and, under other hashes, only sets the map had. -/
theorem mem_add_or_mem {c : SetCache} {key : Bytes} {set : BranchSet} {p : Bytes × BranchSet}
    (h : p ∈ (c.add key set).sets) : p = (key, set) ∨ p ∈ c.sets := by
  by_cases hpos : 0 < c.limit
  · exact (mem_add hpos h).imp_right And.left
  · have hzero : c.limit = 0 := by omega
    simp only [add, hzero, if_true] at h
    exact .inr h

/-- A lookup that answers nothing leaves the hash out of the map. -/
theorem contains_lookup_of_none {c : SetCache} {key : Bytes} (h : (c.lookup key).1 = none) :
    (c.lookup key).2.contains key = false := by
  unfold lookup at h ⊢
  cases hfind : c.sets.find? (·.1 = key) with
  | none =>
    simp only [contains]
    simpa using hfind
  | some p =>
    obtain ⟨k, s⟩ := p
    simp only [hfind] at h ⊢
    split at h
    · cases h
    · rename_i hc
      rw [if_neg hc]
      simp [contains]

/-- A set added to an empty cache of positive limit is answered by a lookup. -/
theorem lookup_add_empty {n : Nat} (hpos : n ≠ 0) (key : Bytes) (set : BranchSet) :
    ((({ limit := n } : SetCache).add key set).lookup key).1 = some set := by
  have hroom : ¬ 2 * n < 1 := by omega
  simp [add, remember, lookup, touch, hpos, hroom]

end SetCache

end BranchLock
