import Mathlib
import BranchLock.Store.Cache

/-!
# The shape of the set cache

The set cache keeps a recency list of hashes and a map from hashes to sets, and the two are
pruned at different times: the recency list forgets its least recent hash when full, the map
forgets a hash only when a lookup or a sweep finds the recency list no longer holds it. A sweep
walks the map in no fixed order and makes every hash it finds in the recency list the most
recent, so the order of the walk decides which hash the recency list forgets next.

This module shows that, whatever the limit, whatever calls are made and whatever order each
sweep walks the map in, after every call (`cache_shape_invariant`):

* the recency list holds each hash once, at most `limit` of them, and only hashes the map holds;
* the map holds each hash once, and at most `2 * limit` of them;
* a lookup or a membership test finds a hash only if the last add of it was not followed by a
  delete of it, and a lookup then answers the set of that add.

The order of a sweep is a `SweepOrder`, any rearrangement of the hashes kept; `addIn` is the
cache's add with its sweep in that order, and the cache's own add is the one that walks the map
as it is kept (`add_eq_addIn`). What the calls say each hash holds is `lastAdded`, and the
invariant `SetCache.Sound` ties the cache to it: a new cache has it, each call keeps it
(`Sound.call`), and so every run does (`Sound.runCalls`). The bound on the map after a sweep
holds because a sweep asks about every kept hash while the recency list only changes its order
(`sweepIn_covers`), so the hashes the map keeps after it are among the at most `limit` hashes of
the recency list.
-/

namespace BranchLock

namespace SetCache

/-! ## Sweeps in any order -/

/-- An order in which a sweep may ask about the kept hashes: any rearrangement of them. A map is
walked in no fixed order, so each sweep may take another. -/
structure SweepOrder where
  /-- The hashes in the order they are asked about, given the hashes kept. -/
  arrange : List Bytes → List Bytes
  /-- Every kept hash is asked about, once. -/
  perm : ∀ ks, (arrange ks).Perm ks

/-- The order the sets are kept in, which `sweep` takes. -/
def SweepOrder.listed : SweepOrder := ⟨id, List.Perm.refl⟩

/-- A sweep that asks the recency list about the given hashes in turn. -/
def sweepIn (c : SetCache) (order : List Bytes) : SetCache := order.foldl sweepOne c

/-- What an add does before it sweeps: the hash becomes the most recent, and its set replaces the
one kept under it, or is kept last. -/
def keep (c : SetCache) (key : Bytes) (set : BranchSet) : SetCache :=
  let c := c.remember key
  let sets : List (Bytes × BranchSet) :=
    if c.sets.any (·.1 = key) then c.sets.map fun (k, s) => (k, if k = key then set else s)
    else c.sets ++ [(key, set)]
  { c with sets := sets }

/-- An add whose sweep, if the map has grown past twice the limit, asks about the kept hashes in
the given order. -/
def addIn (c : SetCache) (key : Bytes) (set : BranchSet) (order : SweepOrder) : SetCache :=
  if c.limit = 0 then c
  else
    let c := c.keep key set
    if c.sets.length > 2 * c.limit then c.sweepIn (order.arrange (c.sets.map (·.1))) else c

/-- Keeping a set updates the recency list as a use of its key does. -/
@[simp] theorem recent_keep (c : SetCache) (key : Bytes) (set : BranchSet) :
    (c.keep key set).recent = (c.remember key).recent := rfl

/-- Keeping a set leaves the size limit. -/
@[simp] theorem limit_keep (c : SetCache) (key : Bytes) (set : BranchSet) :
    (c.keep key set).limit = c.limit := limit_remember c key

/-- Keeping a set replaces the set under its key, or adds it last when the key is new. -/
theorem sets_keep (c : SetCache) (key : Bytes) (set : BranchSet) :
    (c.keep key set).sets =
      if c.sets.any (·.1 = key) then c.sets.map fun (k, s) => (k, if k = key then set else s)
      else c.sets ++ [(key, set)] := by
  simp only [keep, sets_remember]

/-- A sweep visits the keys in the order the map holds them. -/
theorem sweep_eq_sweepIn (c : SetCache) : c.sweep = c.sweepIn (c.sets.map (·.1)) := by
  simp only [sweep, sweepIn, List.foldl_map]

/-- The cache's add sweeps in the order the sets are kept. -/
theorem add_eq_addIn (c : SetCache) (key : Bytes) (set : BranchSet) :
    c.add key set = c.addIn key set .listed := by
  simp only [add, addIn, keep, sweep_eq_sweepIn, SweepOrder.listed, id]

/-! ## What each operation does to the two parts -/

/-- The cache contains a key exactly when its map holds it. -/
theorem contains_iff (c : SetCache) (key : Bytes) :
    c.contains key = true ↔ key ∈ c.sets.map (·.1) := by
  simp [contains, List.any_eq_true]

/-- Touching a hash only reorders the recency list. -/
theorem recent_touch_perm (c : SetCache) (key : Bytes) : (c.touch key).recent.Perm c.recent := by
  unfold touch
  split
  · rename_i h
    exact (List.perm_cons_erase (List.contains_iff_mem.1 h)).symm
  · exact List.Perm.refl _

/-- Asking the recency list about a hash only reorders it. -/
theorem recent_sweepOne_perm (c : SetCache) (key : Bytes) :
    (c.sweepOne key).recent.Perm c.recent := by
  unfold sweepOne
  split
  · exact recent_touch_perm c key
  · exact List.Perm.refl _

/-- A lookup keeps some of the sets, in their order. -/
theorem sets_lookup_sublist (c : SetCache) (key : Bytes) :
    (c.lookup key).2.sets.Sublist c.sets := by
  unfold lookup
  split
  · exact List.Sublist.refl _
  · split
    · rw [sets_touch]
    · exact List.filter_sublist

/-- A sweep in any order leaves the size limit. -/
@[simp] theorem limit_sweepIn (c : SetCache) (order : List Bytes) :
    (c.sweepIn order).limit = c.limit := by
  induction order generalizing c with
  | nil => rfl
  | cons k ks ih => exact (ih _).trans (limit_sweepOne c k)

/-- Adding a set leaves the size limit, whatever the sweep order. -/
@[simp] theorem limit_addIn (c : SetCache) (key : Bytes) (set : BranchSet)
    (order : SweepOrder) :
    (c.addIn key set order).limit = c.limit := by
  unfold addIn
  split
  · rfl
  · dsimp only
    split <;> simp

/-- A sweep only reorders the recency list. -/
theorem recent_sweepIn_perm (c : SetCache) (order : List Bytes) :
    (c.sweepIn order).recent.Perm c.recent := by
  induction order generalizing c with
  | nil => exact List.Perm.refl _
  | cons k ks ih =>
    exact (ih (c.sweepOne k)).trans (recent_sweepOne_perm c k)

/-- A sweep keeps some of the sets, in their order. -/
theorem sets_sweepIn_sublist (c : SetCache) (order : List Bytes) :
    (c.sweepIn order).sets.Sublist c.sets := by
  induction order generalizing c with
  | nil => exact List.Sublist.refl _
  | cons k ks ih =>
    refine (ih (c.sweepOne k)).trans ?_
    unfold sweepOne
    split
    · rw [sets_touch]
    · exact List.filter_sublist

/-- **A sweep covers what it asks about.** A hash the sweep asked about is kept after it only if
the recency list held it: the sweep drops it when the list does not hold it, and the list only
changes its order. -/
theorem sweepIn_covers (c : SetCache) (order : List Bytes) {k : Bytes} (hk : k ∈ order)
    (hkept : k ∈ (c.sweepIn order).sets.map (·.1)) : k ∈ c.recent := by
  induction order generalizing c with
  | nil => cases hk
  | cons x xs ih =>
    rcases List.mem_cons.1 hk with rfl | hk
    · -- the hash asked about first: dropped unless the recency list holds it
      by_contra hnot
      have hgone : k ∉ (c.sweepOne k).sets.map (·.1) := by simp [sweepOne, hnot]
      exact hgone ((sets_sweepIn_sublist _ xs).map _ |>.subset hkept)
    · exact (recent_sweepOne_perm c x).mem_iff.1 (ih _ hk hkept)

/-! ## The invariant -/

/-- What a cache keeps between sweeps, against what the calls say each hash holds
(`latest`): both parts hold each hash once, the recency list at most `limit` hashes and only
hashes the map holds, and the map holds under each hash the set the calls say it holds. -/
structure Coherent (c : SetCache) (latest : Bytes → Option BranchSet) : Prop where
  /-- The recency list holds each hash once. -/
  recent_nodup : c.recent.Nodup
  /-- The map holds each hash once. -/
  keys_nodup : (c.sets.map (·.1)).Nodup
  /-- The recency list holds at most `limit` hashes. -/
  recent_length : c.recent.length ≤ c.limit
  /-- The recency list holds only hashes the map holds. -/
  recent_kept : ∀ k ∈ c.recent, k ∈ c.sets.map (·.1)
  /-- The map holds the set the calls say each hash holds. -/
  kept_latest : ∀ p ∈ c.sets, latest p.1 = some p.2

/-- What every cache reached by calls keeps: `Coherent`, and a map of at most `2 * limit`
hashes. -/
structure Sound (c : SetCache) (latest : Bytes → Option BranchSet) : Prop
    extends Coherent c latest where
  /-- The map holds at most twice `limit` hashes. -/
  sets_length : c.sets.length ≤ 2 * c.limit

variable {c : SetCache} {latest : Bytes → Option BranchSet}

namespace Coherent

/-- Touching a hash keeps the invariant. -/
theorem touch (h : Coherent c latest) (key : Bytes) : Coherent (c.touch key) latest where
  recent_nodup := (recent_touch_perm c key).nodup_iff.2 h.recent_nodup
  keys_nodup := by rw [sets_touch]; exact h.keys_nodup
  recent_length := by
    rw [(recent_touch_perm c key).length_eq, limit_touch]
    exact h.recent_length
  recent_kept k hk := by
    rw [sets_touch]
    exact h.recent_kept k ((recent_touch_perm c key).mem_iff.1 hk)
  kept_latest p hp := h.kept_latest p (by rwa [sets_touch] at hp)

/-- Dropping the set of a hash the recency list does not hold keeps the invariant. -/
theorem forget (h : Coherent c latest) {key : Bytes} (hkey : key ∉ c.recent) :
    Coherent { c with sets := c.sets.filter (·.1 ≠ key) } latest where
  recent_nodup := h.recent_nodup
  keys_nodup := h.keys_nodup.sublist (List.filter_sublist.map _)
  recent_length := h.recent_length
  recent_kept k hk := by
    obtain ⟨p, hp, rfl⟩ := List.mem_map.1 (h.recent_kept k hk)
    have hne : p.1 ≠ key := fun he => hkey (he ▸ hk)
    exact List.mem_map.2 ⟨p, List.mem_filter.2 ⟨hp, by simpa using hne⟩, rfl⟩
  kept_latest p hp := h.kept_latest p (List.mem_filter.1 hp).1

/-- Asking the recency list about a hash keeps the invariant. -/
theorem sweepOne (h : Coherent c latest) (key : Bytes) : Coherent (c.sweepOne key) latest := by
  unfold SetCache.sweepOne
  split
  · exact h.touch key
  · rename_i hc
    exact h.forget (by simpa using hc)

/-- A sweep in any order keeps the invariant. -/
theorem sweepIn (h : Coherent c latest) (order : List Bytes) :
    Coherent (c.sweepIn order) latest := by
  induction order generalizing c with
  | nil => exact h
  | cons k ks ih => exact ih (h.sweepOne k)

/-- After a sweep that asks about every kept hash, the map holds at most `limit` hashes. -/
theorem length_sweepIn_le (h : Coherent c latest) {order : List Bytes}
    (horder : order.Perm (c.sets.map (·.1))) : (c.sweepIn order).sets.length ≤ c.limit := by
  have h' := h.sweepIn order
  -- every hash kept after the sweep is one the recency list holds
  have hsub : (c.sweepIn order).sets.map (·.1) ⊆ (c.sweepIn order).recent := by
    intro k hk
    have hmem : k ∈ order :=
      horder.mem_iff.2 (((sets_sweepIn_sublist c order).map _).subset hk)
    exact (recent_sweepIn_perm c order).mem_iff.2 (sweepIn_covers c order hmem hk)
  calc (c.sweepIn order).sets.length
      = ((c.sweepIn order).sets.map (·.1)).length := (List.length_map _).symm
    _ ≤ (c.sweepIn order).recent.length := h'.keys_nodup.length_le_of_subset hsub
    _ ≤ c.limit := by simpa using h'.recent_length

/-- A lookup keeps the invariant. -/
theorem lookup (h : Coherent c latest) (key : Bytes) : Coherent (c.lookup key).2 latest := by
  unfold SetCache.lookup
  split
  · exact h
  · split
    · exact h.touch key
    · rename_i hc
      exact h.forget (by simpa using hc)

/-- A delete keeps the invariant, with the hash then holding nothing. -/
theorem delete (h : Coherent c latest) (key : Bytes) :
    Coherent (c.delete key) (Function.update latest key none) where
  recent_nodup := h.recent_nodup.erase key
  keys_nodup := h.keys_nodup.sublist (List.filter_sublist.map _)
  recent_length := List.length_erase_le.trans h.recent_length
  recent_kept k hk := by
    obtain ⟨hne, hk⟩ := (h.recent_nodup.mem_erase_iff).1 hk
    obtain ⟨p, hp, rfl⟩ := List.mem_map.1 (h.recent_kept _ hk)
    exact List.mem_map.2 ⟨p, List.mem_filter.2 ⟨hp, by simpa using hne⟩, rfl⟩
  kept_latest p hp := by
    obtain ⟨hp, hne⟩ := mem_delete hp
    rw [Function.update_of_ne hne]
    exact h.kept_latest p hp

/-- Making a hash the most recent, before its set is kept: the recency list holds it, each hash
once, at most `limit` of them, and otherwise only hashes it held. -/
theorem remember (h : Coherent c latest) (hpos : c.limit ≠ 0) (key : Bytes) :
    (c.remember key).recent.Nodup ∧ (c.remember key).recent.length ≤ c.limit ∧
      key ∈ (c.remember key).recent ∧
      ∀ k ∈ (c.remember key).recent, k = key ∨ k ∈ c.recent := by
  unfold SetCache.remember
  rw [if_neg hpos]
  split
  · -- the list holds the hash already: it is only moved to the front
    rename_i hc
    have hp := recent_touch_perm c key
    refine ⟨hp.nodup_iff.2 h.recent_nodup, hp.length_eq ▸ h.recent_length,
      hp.mem_iff.2 (List.contains_iff_mem.1 hc), fun k hk => .inr (hp.mem_iff.1 hk)⟩
  · rename_i hc
    have hnot : key ∉ c.recent := by simpa using hc
    split
    · -- the list is full: its least recent hash is forgotten
      rename_i hfull
      refine ⟨List.nodup_cons.2 ⟨fun hk => hnot (List.dropLast_subset _ hk),
        h.recent_nodup.sublist (List.dropLast_sublist _)⟩, ?_, List.mem_cons_self, ?_⟩
      · simp only [List.length_cons, List.length_dropLast]
        have := h.recent_length
        omega
      · intro k hk
        rcases List.mem_cons.1 hk with rfl | hk
        · exact .inl rfl
        · exact .inr (List.dropLast_subset _ hk)
    · rename_i hroom
      refine ⟨List.nodup_cons.2 ⟨hnot, h.recent_nodup⟩,
        by simp only [List.length_cons]; omega, List.mem_cons_self, fun k hk => ?_⟩
      rcases List.mem_cons.1 hk with rfl | hk
      · exact .inl rfl
      · exact .inr hk

/-- Keeping a set under a hash keeps the invariant, with the hash then holding that set, and
adds at most one hash to the map. -/
theorem keep (h : Coherent c latest) (hpos : c.limit ≠ 0) (key : Bytes) (set : BranchSet) :
    Coherent (c.keep key set) (Function.update latest key (some set)) ∧
      (c.keep key set).sets.length ≤ c.sets.length + 1 := by
  obtain ⟨hnodup, hlength, hkey, hold⟩ := h.remember hpos key
  by_cases hany : c.sets.any (·.1 = key) = true
  · -- the hash is kept already: its set is replaced, and the hashes stay as they are
    have hsets : (c.keep key set).sets =
        c.sets.map fun (k, s) => (k, if k = key then set else s) := by
      rw [sets_keep, if_pos hany]
    have hkeys : (c.keep key set).sets.map (·.1) = c.sets.map (·.1) := by
      rw [hsets, List.map_map]
      rfl
    refine ⟨⟨hnodup, hkeys ▸ h.keys_nodup, by simpa using hlength, fun k hk => ?_,
      fun p hp => ?_⟩, by simp [hsets]⟩
    · rw [hkeys]
      rcases hold k (by simpa using hk) with rfl | hk
      · exact (contains_iff c k).1 hany
      · exact h.recent_kept k hk
    · rw [hsets] at hp
      obtain ⟨⟨k, s⟩, hks, rfl⟩ := List.mem_map.1 hp
      by_cases hk : k = key
      · subst hk
        simp
      · simp only [hk, if_false, Function.update_of_ne hk]
        exact h.kept_latest _ hks
  · -- the hash is new: its set is kept last
    have hsets : (c.keep key set).sets = c.sets ++ [(key, set)] := by
      rw [sets_keep, if_neg hany]
    have hout : key ∉ c.sets.map (·.1) := fun hk => hany ((contains_iff c key).2 hk)
    refine ⟨⟨hnodup, ?_, by simpa using hlength, fun k hk => ?_, fun p hp => ?_⟩,
      by simp [hsets]⟩
    · rw [hsets, List.map_append, List.nodup_append]
      refine ⟨h.keys_nodup, List.nodup_singleton _, fun a ha b hb hab => ?_⟩
      simp only [List.map_cons, List.map_nil, List.mem_singleton] at hb
      subst hb
      exact hout (hab ▸ ha)
    · rw [hsets, List.map_append]
      rcases hold k (by simpa using hk) with rfl | hk
      · exact List.mem_append_right _ (List.mem_singleton.2 rfl)
      · exact List.mem_append_left _ (h.recent_kept k hk)
    · rw [hsets] at hp
      rcases List.mem_append.1 hp with hp | hp
      · have hne : p.1 ≠ key := fun he => hout (he ▸ List.mem_map_of_mem hp)
        rw [Function.update_of_ne hne]
        exact h.kept_latest p hp
      · rw [List.mem_singleton.1 hp]
        simp

end Coherent

namespace Sound

/-- A new cache holds nothing, as no call has said otherwise. -/
theorem new (limit : Nat) : Sound ({ limit := limit } : SetCache) fun _ => none where
  recent_nodup := List.nodup_nil
  keys_nodup := List.nodup_nil
  recent_length := Nat.zero_le _
  recent_kept _ hk := nomatch hk
  kept_latest _ hp := nomatch hp
  sets_length := Nat.zero_le _

/-- An add, whatever order its sweep takes, keeps the invariant, with the hash then holding the
set added. -/
theorem addIn (h : Sound c latest) (key : Bytes) (set : BranchSet) (order : SweepOrder) :
    Sound (c.addIn key set order) (Function.update latest key (some set)) := by
  unfold SetCache.addIn
  split
  · -- a cache of limit zero keeps nothing, so what the calls say does not show
    rename_i hzero
    have hnil : c.sets = [] := List.eq_nil_of_length_eq_zero (by have := h.sets_length; omega)
    exact ⟨⟨h.recent_nodup, h.keys_nodup, h.recent_length, h.recent_kept,
      fun p hp => by rw [hnil] at hp; cases hp⟩, h.sets_length⟩
  · rename_i hpos
    obtain ⟨hk, hlen⟩ := h.toCoherent.keep hpos key set
    dsimp only
    split
    · -- the map has grown past twice the limit: the sweep brings it within the limit
      refine ⟨hk.sweepIn _, ?_⟩
      have hle := hk.length_sweepIn_le (order.perm _)
      simp only [limit_sweepIn, limit_keep] at hle ⊢
      omega
    · rename_i hroom
      exact ⟨hk, by simpa using hroom⟩

/-- A lookup keeps the invariant. -/
theorem lookup (h : Sound c latest) (key : Bytes) : Sound (c.lookup key).2 latest :=
  ⟨h.toCoherent.lookup key, by
    rw [limit_lookup]
    exact (sets_lookup_sublist c key).length_le.trans h.sets_length⟩

/-- A delete keeps the invariant, with the hash then holding nothing. -/
theorem delete (h : Sound c latest) (key : Bytes) :
    Sound (c.delete key) (Function.update latest key none) :=
  ⟨h.toCoherent.delete key, (List.length_filter_le _ _).trans h.sets_length⟩

end Sound

/-! ## Calls -/

/-- A call on a set cache; an add says in which order its sweep, if it sweeps, asks about the
kept hashes. -/
inductive Call where
  /-- Keeps a set under a hash. -/
  | add (key : Bytes) (set : BranchSet) (order : SweepOrder)
  /-- Looks a hash up. -/
  | lookup (key : Bytes)
  /-- Asks whether the map holds a hash. -/
  | contains (key : Bytes)
  /-- Forgets a hash. -/
  | delete (key : Bytes)

namespace Call

/-- The cache after a call. -/
def apply (c : SetCache) : Call → SetCache
  | add key set order => c.addIn key set order
  | lookup key => (c.lookup key).2
  | contains _ => c
  | delete key => c.delete key

/-- What a hash holds after a call, as far as adds and deletes say: the set of its last add,
unless a delete of it came after. -/
def record (latest : Bytes → Option BranchSet) : Call → Bytes → Option BranchSet
  | add key set _ => Function.update latest key (some set)
  | delete key => Function.update latest key none
  | _ => latest

end Call

/-- The cache after calls made one after another. -/
def runCalls (c : SetCache) (calls : List Call) : SetCache := calls.foldl Call.apply c

/-- No call changes the limit. -/
@[simp] theorem limit_runCalls (c : SetCache) (calls : List Call) :
    (c.runCalls calls).limit = c.limit := by
  induction calls generalizing c with
  | nil => rfl
  | cons k ks ih =>
    refine (ih _).trans ?_
    cases k <;> simp [Call.apply]

/-- What each hash holds after calls: the set of the last add of it, unless a delete of it
came after. -/
def lastAdded (calls : List Call) : Bytes → Option BranchSet :=
  calls.foldl Call.record fun _ => none

namespace Sound

/-- **One call.** Every call keeps the invariant, against what it says each hash holds. -/
theorem call (h : Sound c latest) (k : Call) : Sound (k.apply c) (k.record latest) := by
  cases k with
  | add key set order => exact h.addIn key set order
  | lookup key => exact h.lookup key
  | contains key => exact h
  | delete key => exact h.delete key

/-- **Every run.** Calls made one after another keep the invariant. -/
theorem runCalls (h : Sound c latest) (calls : List Call) :
    Sound (c.runCalls calls) (calls.foldl Call.record latest) := by
  induction calls generalizing c latest with
  | nil => exact h
  | cons k ks ih => exact ih (h.call k)

/-- A set a lookup answers is the one the calls say the hash holds. -/
theorem latest_of_lookup (h : Sound c latest) {key : Bytes} {s : BranchSet}
    (hs : (c.lookup key).1 = some s) : latest key = some s :=
  h.kept_latest _ (mem_of_lookup_eq_some hs)

/-- A hash the map holds is one the calls say holds a set. -/
theorem latest_of_contains (h : Sound c latest) {key : Bytes} (hc : c.contains key = true) :
    ∃ s, latest key = some s := by
  obtain ⟨s, hs⟩ := exists_of_contains hc
  exact ⟨s, h.kept_latest _ hs⟩

end Sound

/-- **The cache keeps its shape.** Start a cache of any limit and make any calls, each sweep
walking the map in any order. After them, the recency list holds each hash once, at most `limit`
of them, all held by the map; the map holds each hash once and at most `2 * limit` of them. A
lookup answers a set only if the last add of the hash was not followed by a delete of it, and
then answers the set of that add; a membership test finds a hash only in that case too. -/
theorem cache_shape_invariant (limit : Nat) (calls : List Call) :
    let c := ({ limit := limit } : SetCache).runCalls calls
    c.recent.Nodup ∧ c.recent.length ≤ limit ∧ (∀ k ∈ c.recent, c.contains k = true) ∧
      (c.sets.map (·.1)).Nodup ∧ c.sets.length ≤ 2 * limit ∧
      (∀ k s, (c.lookup k).1 = some s → lastAdded calls k = some s) ∧
      (∀ k, c.contains k = true → ∃ s, lastAdded calls k = some s) := by
  intro c
  have h : Sound c (lastAdded calls) := (Sound.new limit).runCalls calls
  have hlimit : c.limit = limit := limit_runCalls _ calls
  refine ⟨h.recent_nodup, hlimit ▸ h.recent_length, fun k hk => (contains_iff c k).2
    (h.recent_kept k hk), h.keys_nodup, hlimit ▸ h.sets_length,
    fun k s hs => h.latest_of_lookup hs, fun k hk => h.latest_of_contains hk⟩

end SetCache

end BranchLock
