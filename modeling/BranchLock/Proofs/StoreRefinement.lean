import Mathlib
import BranchLock.Store.Sets
import BranchLock.Proofs.StoredForm
import BranchLock.Proofs.UnspendableSets
import BranchLock.Proofs.PrefixRanges

/-!
# A store of sets is a map from script hashes to sets

A store answers from two places: its cache of decoded sets, and the stored forms in its engine.
This module shows that, used one call at a time over an engine that nothing else writes, it
behaves exactly as a plain map from script hashes to sets (`SetCatalog`):

* storing a set keeps it under its script hash, in place of any set there;
* fetching a hash answers the set under it, or that there is none; fetching by address does
  so for a pay-to-script-hash address and refuses every other address;
* asking whether a hash has a set answers whether the map holds it;
* deleting a hash drops its set, or fails and changes nothing when there is none;
* walking the sets visits them in strictly ascending hash order, with the visitor's state
  threaded along, and stops at the visitor's first refusal.

The main statement is `store_refines_catalog`: from a fresh store over any cache size and an
engine that holds the stored forms of some map, every sequence of calls gets the answers the map
gives, so the cache size never shows.

The route: `SetStore.Refines` says that the engine is open and holds exactly the stored forms of
the map's sets under their keys, and that every set the cache keeps is the map's set under that
hash. Each call keeps it and answers as the map does (`Refines.call`): a set read from the
engine is the map's set because stored forms read back (`BranchSet.deserialize_serialize`), and
a set the cache answers is the map's set by the invariant, which holds because the cache only
ever keeps a set that was just written or just read. The run lemma `Refines.answers` follows by
induction on the calls.
-/

namespace BranchLock

/-! ## The map a store stands for -/

/-- The sets of a store, each under its script hash, in strictly ascending hash order. A set is
determined by its branches (`BranchSet.eq_of_branches_eq`), so this is a map from script hashes
to branch lists. -/
structure SetCatalog where
  /-- The sets, by script hash. -/
  entries : List (Bytes × BranchSet)
  /-- The hashes are strictly ascending. -/
  sorted : Contents.Sorted entries
  /-- Every set is kept under its own script hash. -/
  hashed : ∀ e ∈ entries, e.2.scriptHash = e.1

namespace SetCatalog

variable {σ ε : Type}

/-- No sets. -/
def empty : SetCatalog := ⟨[], List.Pairwise.nil, fun _ h => nomatch h⟩

/-- The set under a hash. -/
def find? (M : SetCatalog) (hash : Bytes) : Option BranchSet := Contents.lookup hash M.entries

/-- Keeps a set under its script hash, in place of any set there. -/
def put (M : SetCatalog) (s : BranchSet) : SetCatalog where
  entries := Contents.insert s.scriptHash s M.entries
  sorted := Contents.sorted_insert _ _ M.sorted
  hashed e he := by
    rcases Contents.mem_insert he with rfl | he
    · rfl
    · exact M.hashed e he

/-- Drops the set under a hash. -/
def erase (M : SetCatalog) (hash : Bytes) : SetCatalog where
  entries := Contents.remove hash M.entries
  sorted := Contents.sorted_remove _ M.sorted
  hashed e he := M.hashed e (Contents.mem_remove he).1

/-- The set under a hash, or that there is none. -/
def fetch (M : SetCatalog) (hash : Bytes) : Except StoreError BranchSet :=
  match M.find? hash with
  | some s => .ok s
  | none => .error (.notFound hash)

/-- The set an address pays to: only a pay-to-script-hash address pays to a set. -/
def fetchByAddress (M : SetCatalog) (a : Address) : Except StoreError BranchSet :=
  match a with
  | .scriptHash h _ => M.fetch h
  | _ => .error (.notScriptHash a.encode)

/-- Whether a set is kept under a hash. -/
def has (M : SetCatalog) (hash : Bytes) : Bool := (M.find? hash).isSome

/-- Drops the set under a hash, or fails when there is none. -/
def delete (M : SetCatalog) (hash : Bytes) : Except StoreError SetCatalog :=
  if M.has hash then .ok (M.erase hash) else .error (.notFound hash)

/-- Visits sets in the order given, threading the visitor's state, up to its first refusal. -/
def visit (f : σ → Bytes → BranchSet → Except ε σ) : σ → List (Bytes × BranchSet) → σ × Option ε
  | st, [] => (st, none)
  | st, (h, s) :: rest =>
    match f st h s with
    | .error e => (st, some e)
    | .ok st => visit f st rest

end SetCatalog

/-! ## Calls and their answers -/

/-- A call on a store of sets; a walk's visitor threads a state of type `σ` and refuses with
errors of type `ε`. -/
inductive StoreCall (σ ε : Type) where
  /-- Stores a set. -/
  | putSet (s : BranchSet)
  /-- Fetches the set under a hash. -/
  | fetchSet (hash : Bytes)
  /-- Fetches the set an address pays to. -/
  | fetchByAddress (a : Address)
  /-- Asks whether a set is stored under a hash. -/
  | hasSet (hash : Bytes)
  /-- Deletes the set under a hash. -/
  | deleteSet (hash : Bytes)
  /-- Walks the stored sets from a visitor state. -/
  | forEachSet (visit : σ → Bytes → BranchSet → Except ε σ) (init : σ)

/-- What a call answers. -/
inductive StoreAnswer (σ ε : Type) where
  /-- A write's success or error. -/
  | done (r : Except StoreError Unit)
  /-- A fetched set or the error. -/
  | set (r : Except StoreError BranchSet)
  /-- The answer to a question, or the error. -/
  | answer (r : Except StoreError Bool)
  /-- The visitor state a walk reached and, if it stopped early, why. -/
  | walked (st : σ) (stop : Option (VisitError ε))

variable {σ ε : Type}

namespace SetStore

/-- A call on a store: the store after it, and its answer. A failed write leaves the store as it
was. -/
def call (st : SetStore) : StoreCall σ ε → SetStore × StoreAnswer σ ε
  | .putSet s =>
    match st.putSet s with
    | .ok st' => (st', .done (.ok ()))
    | .error e => (st, .done (.error e))
  | .fetchSet hash => ((st.fetchSet hash).1, .set (st.fetchSet hash).2)
  | .fetchByAddress a => ((st.fetchByAddress a).1, .set (st.fetchByAddress a).2)
  | .hasSet hash => (st, .answer (st.hasSet hash))
  | .deleteSet hash =>
    match st.deleteSet hash with
    | .ok st' => (st', .done (.ok ()))
    | .error e => (st, .done (.error e))
  | .forEachSet visit init =>
    (st, .walked (st.forEachSet visit init).1 (st.forEachSet visit init).2)

/-- The answers to calls made one after another. -/
def answers (st : SetStore) : List (StoreCall σ ε) → List (StoreAnswer σ ε)
  | [] => []
  | c :: cs => (st.call c).2 :: (st.call c).1.answers cs

end SetStore

namespace SetCatalog

/-- A call on the map: the map after it, and its answer. -/
def call (M : SetCatalog) : StoreCall σ ε → SetCatalog × StoreAnswer σ ε
  | .putSet s => (M.put s, .done (.ok ()))
  | .fetchSet hash => (M, .set (M.fetch hash))
  | .fetchByAddress a => (M, .set (M.fetchByAddress a))
  | .hasSet hash => (M, .answer (.ok (M.has hash)))
  | .deleteSet hash =>
    match M.delete hash with
    | .ok M' => (M', .done (.ok ()))
    | .error e => (M, .done (.error e))
  | .forEachSet f init =>
    (M, .walked (visit f init M.entries).1 ((visit f init M.entries).2.map .visitor))

/-- The answers of the map to calls made one after another. -/
def answers (M : SetCatalog) : List (StoreCall σ ε) → List (StoreAnswer σ ε)
  | [] => []
  | c :: cs => (M.call c).2 :: (M.call c).1.answers cs

end SetCatalog

/-! ## Keys of stored sets -/

/-- The stored entries of a map's sets: each stored form under the key of its hash. -/
abbrev storedEntries (es : List (Bytes × BranchSet)) : List (Bytes × Bytes) :=
  Contents.rename setKey BranchSet.serialize es

/-- Different hashes are stored under different keys. -/
theorem setKey_injective : Function.Injective setKey := fun _ _ h => List.append_cancel_left h

/-- Keys of sets compare as their hashes do. -/
theorem lt_setKey (a b : Bytes) : Bytes.lt (setKey a) (setKey b) = Bytes.lt a b :=
  Bytes.lt_append_left _ _ _

/-- Every key with the set prefix lies in the range a walk over the sets scans. -/
theorem contains_setKey (hash : Bytes) :
    (KeyRange.ofPrefix setKeyPrefix).contains (setKey hash) = true :=
  (KeyRange.contains_ofPrefix_iff _ _).2 (List.prefix_append _ _)

/-- Committing a set's stored form under its key leaves the stored forms of the map with the
set put. -/
theorem stored_put {c : Contents} {M : SetCatalog} (h : c.entries = storedEntries M.entries)
    (s : BranchSet) :
    (c.applyAll [.put (setKey s.scriptHash) s.serialize]).entries =
      storedEntries (M.put s).entries := by
  simp only [Contents.applyAll, List.foldl, Contents.apply, Contents.put, h, storedEntries,
    SetCatalog.put]
  exact Contents.insert_rename setKey_injective lt_setKey _ _ _

/-- Committing the deletion of a hash's key leaves the stored forms of the map without it. -/
theorem stored_erase {c : Contents} {M : SetCatalog} (h : c.entries = storedEntries M.entries)
    (hash : Bytes) :
    (c.applyAll [.delete (setKey hash)]).entries = storedEntries (M.erase hash).entries := by
  simp only [Contents.applyAll, List.foldl, Contents.apply, Contents.erase, h, storedEntries,
    SetCatalog.erase]
  exact Contents.remove_rename setKey_injective _ _

/-- An open engine holding the stored forms of a map reads, under the key of a hash, the
stored form of the map's set. -/
theorem read_stored {e : Engine} {M : SetCatalog} (hopen : e.closed = false)
    (h : e.contents.entries = storedEntries M.entries) (hash : Bytes) :
    e.read (setKey hash) = .ok ((M.find? hash).map BranchSet.serialize) := by
  rw [Engine.read_of_open hopen, Contents.find?, h, storedEntries,
    Contents.lookup_rename setKey_injective]
  rfl

/-- A set's stored form, read back under the key of its own hash, is the set. -/
theorem decodeStoredSet_serialize (s : BranchSet) :
    decodeStoredSet s.scriptHash s.serialize = .ok s := by
  simp [decodeStoredSet, BranchSet.deserialize_serialize, bind, Except.bind, pure, Except.pure]

/-- The map keeps every set under its own script hash. -/
theorem SetCatalog.scriptHash_of_find? {M : SetCatalog} {hash : Bytes} {s : BranchSet}
    (h : M.find? hash = some s) : s.scriptHash = hash :=
  M.hashed (hash, s) (Contents.mem_of_lookup h)

/-- The stored form of a set the map keeps reads back, under the key it is kept under, as the
set. -/
theorem decodeStoredSet_of_find? {M : SetCatalog} {hash : Bytes} {s : BranchSet}
    (h : M.find? hash = some s) : decodeStoredSet hash s.serialize = .ok s :=
  SetCatalog.scriptHash_of_find? h ▸ decodeStoredSet_serialize s

/-- Walking the stored entries of sets kept under their own hashes visits the sets in order,
and stops only where the visitor refuses. -/
theorem visitEntries_storedEntries (f : σ → Bytes → BranchSet → Except ε σ) (st : σ)
    {es : List (Bytes × BranchSet)} (hes : ∀ e ∈ es, e.2.scriptHash = e.1) :
    SetStore.visitEntries f st (storedEntries es) =
      ((SetCatalog.visit f st es).1, (SetCatalog.visit f st es).2.map .visitor) := by
  induction es generalizing st with
  | nil => rfl
  | cons e rest ih =>
    obtain ⟨h, s⟩ := e
    have hs : s.scriptHash = h := hes (h, s) List.mem_cons_self
    have hlen : (setKey h).length = setKeyPrefix.length + 20 := by
      rw [← hs, setKey, List.length_append, BranchSet.scriptHash, hash160_length]
    have hdrop : (setKey h).drop setKeyPrefix.length = h := List.drop_left
    have hdecode : decodeStoredSet h s.serialize = .ok s := hs ▸ decodeStoredSet_serialize s
    simp only [storedEntries, Contents.rename, List.map_cons] at ih ⊢
    rw [SetStore.visitEntries, if_neg (by omega)]
    simp only [hdrop, hdecode]
    cases hf : f st h s with
    | error e => simp [SetCatalog.visit, hf]
    | ok st' =>
      simp [SetCatalog.visit, hf, ih st' (fun e he => hes e (List.mem_cons_of_mem _ he))]

/-! ## The invariant -/

/-- A store stands for a map: its engine is open and holds exactly the stored forms of the
map's sets under their keys, and every set its cache keeps is the map's set under that hash. -/
structure SetStore.Refines (st : SetStore) (M : SetCatalog) : Prop where
  /-- The engine is open. -/
  engineOpen : st.engine.closed = false
  /-- The engine holds the stored forms of the map's sets, in key order. -/
  stored : st.engine.contents.entries = storedEntries M.entries
  /-- The cache keeps only the map's sets. -/
  cached : ∀ p ∈ st.cache.sets, M.find? p.1 = some p.2
  /-- The cache can hold sets. -/
  limitPos : 0 < st.cache.limit

namespace SetStore.Refines

variable {st : SetStore} {M : SetCatalog}

/-- A fresh store over an open engine that holds the stored forms of a map stands for it. -/
theorem make {e : Engine} (hopen : e.closed = false)
    (hstored : e.contents.entries = storedEntries M.entries) (cacheSize : Nat) :
    (SetStore.make e cacheSize).Refines M where
  engineOpen := hopen
  stored := hstored
  cached _ h := nomatch h
  limitPos := by
    show 0 < if cacheSize = 0 then SetStore.defaultCacheSize else cacheSize
    split
    · decide
    · omega

/-- A cache that keeps only the map's sets may replace the store's. -/
theorem withCache (hr : st.Refines M) {c : SetCache}
    (hc : ∀ p ∈ c.sets, M.find? p.1 = some p.2) (hpos : 0 < c.limit) :
    ({ st with cache := c } : SetStore).Refines M :=
  ⟨hr.engineOpen, hr.stored, hc, hpos⟩

/-- The engine's value under the key of a hash is the stored form of the map's set. -/
theorem read (hr : st.Refines M) (hash : Bytes) :
    st.engine.read (setKey hash) = .ok ((M.find? hash).map BranchSet.serialize) :=
  read_stored hr.engineOpen hr.stored hash

/-- After a lookup, the cache still keeps only the map's sets. -/
theorem lookup (hr : st.Refines M) (hash : Bytes) :
    ({ st with cache := (st.cache.lookup hash).2 } : SetStore).Refines M :=
  hr.withCache (fun p hp => hr.cached p (SetCache.mem_lookup hp))
    (by rw [SetCache.limit_lookup]; exact hr.limitPos)

/-! ## One call -/

/-- Storing a set succeeds, and the store then stands for the map with the set put. -/
theorem putSet (hr : st.Refines M) (s : BranchSet) :
    ∃ st', st.putSet s = .ok st' ∧ st'.Refines (M.put s) := by
  have hput : st.putSet s = .ok
      { engine := { st.engine with
          contents := st.engine.contents.applyAll [.put (setKey s.scriptHash) s.serialize] },
        cache := st.cache.add s.scriptHash s } := by
    simp [SetStore.putSet, Engine.writeAll_of_open hr.engineOpen, bind, Except.bind, pure,
      Except.pure]
  refine ⟨_, hput, ?_⟩
  refine ⟨hr.engineOpen, stored_put hr.stored s, fun p hp => ?_, ?_⟩
  · rcases SetCache.mem_add hr.limitPos hp with rfl | ⟨hp, hne⟩
    · exact Contents.lookup_insert_same _ _ _
    · rw [SetCatalog.find?, SetCatalog.put, Contents.lookup_insert_of_ne hne]
      exact hr.cached p hp
  · rw [SetCache.limit_add]
    exact hr.limitPos

/-- Fetching a hash answers the map's set under it, and the store still stands for the map. -/
theorem fetchSet (hr : st.Refines M) (hash : Bytes) :
    (st.fetchSet hash).2 = M.fetch hash ∧ (st.fetchSet hash).1.Refines M := by
  have hl := hr.lookup hash
  rcases hlookup : st.cache.lookup hash with ⟨cached, cache'⟩
  rw [hlookup] at hl
  cases cached with
  | some s =>
    -- the cache answers, with a set it keeps
    have hs := hr.cached _ (SetCache.mem_of_lookup_eq_some (congrArg Prod.fst hlookup))
    have hfetch : st.fetchSet hash = ({ st with cache := cache' }, .ok s) := by
      simp only [SetStore.fetchSet, hlookup]
    rw [hfetch]
    exact ⟨by simp [SetCatalog.fetch, hs], hl⟩
  | none =>
    -- the engine answers, and a set read is cached
    cases hfind : M.find? hash with
    | none =>
      have hfetch : st.fetchSet hash = ({ st with cache := cache' }, .error (.notFound hash)) := by
        simp only [SetStore.fetchSet, hlookup, hr.read hash, hfind, Option.map_none]
      rw [hfetch]
      exact ⟨by simp [SetCatalog.fetch, hfind], hl⟩
    | some s =>
      have hdecode : decodeStoredSet hash s.serialize = .ok s := decodeStoredSet_of_find? hfind
      have hfetch : st.fetchSet hash = ({ st with cache := cache'.add hash s }, .ok s) := by
        simp only [SetStore.fetchSet, hlookup, hr.read hash, hfind, Option.map_some, hdecode]
      rw [hfetch]
      refine ⟨by simp [SetCatalog.fetch, hfind], hl.withCache (fun p hp => ?_) ?_⟩
      · rcases SetCache.mem_add hl.limitPos hp with rfl | ⟨hp, -⟩
        · exact hfind
        · exact hl.cached p hp
      · rw [SetCache.limit_add]
        exact hl.limitPos

/-- Asking whether a hash has a set answers whether the map keeps one. -/
theorem hasSet (hr : st.Refines M) (hash : Bytes) : st.hasSet hash = .ok (M.has hash) := by
  unfold SetStore.hasSet
  split
  · rename_i hcontains
    obtain ⟨s, hs⟩ := SetCache.exists_of_contains hcontains
    simp [SetCatalog.has, hr.cached _ hs]
  · rw [hr.read hash]
    simp [SetCatalog.has, Except.map]

/-- Deleting a hash the map keeps succeeds and the store then stands for the map without it;
deleting any other hash fails with the hash not found. -/
theorem deleteSet (hr : st.Refines M) (hash : Bytes) :
    if M.has hash then ∃ st', st.deleteSet hash = .ok st' ∧ st'.Refines (M.erase hash)
    else st.deleteSet hash = .error (.notFound hash) := by
  split
  · rename_i hhas
    have hdelete : st.deleteSet hash = .ok
        { engine := { st.engine with
            contents := st.engine.contents.applyAll [.delete (setKey hash)] },
          cache := st.cache.delete hash } := by
      simp [SetStore.deleteSet, hr.hasSet hash, hhas, Engine.writeAll_of_open hr.engineOpen,
        bind, Except.bind, pure, Except.pure]
    refine ⟨_, hdelete, ?_⟩
    refine ⟨hr.engineOpen, stored_erase hr.stored hash, fun p hp => ?_, hr.limitPos⟩
    · obtain ⟨hp, hne⟩ := SetCache.mem_delete hp
      rw [SetCatalog.find?, SetCatalog.erase, Contents.lookup_remove_of_ne hne]
      exact hr.cached p hp
  · rename_i hhas
    simp [SetStore.deleteSet, hr.hasSet hash, hhas, bind, Except.bind, throw, throwThe,
      MonadExceptOf.throw]

/-- A walk over the store visits the map's sets in ascending hash order. -/
theorem forEachSet (hr : st.Refines M) (f : σ → Bytes → BranchSet → Except ε σ) (init : σ) :
    st.forEachSet f init =
      ((SetCatalog.visit f init M.entries).1,
        (SetCatalog.visit f init M.entries).2.map .visitor) := by
  have hscan :
      st.engine.scanNow (KeyRange.ofPrefix setKeyPrefix) = .ok (storedEntries M.entries) := by
    rw [Engine.scanNow_of_open hr.engineOpen, Contents.scan, hr.stored]
    congr 1
    refine List.filter_eq_self.2 fun e he => ?_
    obtain ⟨p, -, rfl⟩ := List.mem_map.1 he
    exact contains_setKey p.1
  simp only [SetStore.forEachSet, hscan]
  exact visitEntries_storedEntries f init M.hashed

/-- **One call.** A call on a store that stands for a map answers as the map does, and the
store after it stands for the map after it. -/
theorem call (hr : st.Refines M) (c : StoreCall σ ε) :
    (st.call c).2 = (M.call c).2 ∧ (st.call c).1.Refines (M.call c).1 := by
  cases c with
  | putSet s =>
    obtain ⟨st', hput, hr'⟩ := hr.putSet s
    simp only [SetStore.call, SetCatalog.call, hput]
    exact ⟨by trivial, hr'⟩
  | fetchSet hash =>
    obtain ⟨hanswer, hr'⟩ := hr.fetchSet hash
    simp only [SetStore.call, SetCatalog.call, hanswer]
    exact ⟨by trivial, hr'⟩
  | fetchByAddress a =>
    cases a with
    | scriptHash h id =>
      obtain ⟨hanswer, hr'⟩ := hr.fetchSet h
      simp only [SetStore.call, SetCatalog.call, SetStore.fetchByAddress,
        SetCatalog.fetchByAddress, hanswer]
      exact ⟨by trivial, hr'⟩
    | _ => exact ⟨by trivial, hr⟩
  | hasSet hash =>
    simp only [SetStore.call, SetCatalog.call, hr.hasSet hash]
    exact ⟨by trivial, hr⟩
  | deleteSet hash =>
    have hdel := hr.deleteSet hash
    by_cases hhas : M.has hash
    · rw [if_pos hhas] at hdel
      obtain ⟨st', hst', hr'⟩ := hdel
      simp only [SetStore.call, SetCatalog.call, SetCatalog.delete, hhas, hst', if_true]
      exact ⟨by trivial, hr'⟩
    · rw [if_neg hhas] at hdel
      simp only [SetStore.call, SetCatalog.call, SetCatalog.delete, hhas, hdel,
        Bool.false_eq_true, if_false]
      exact ⟨by trivial, hr⟩
  | forEachSet f init =>
    simp only [SetStore.call, SetCatalog.call, hr.forEachSet f init]
    exact ⟨by trivial, hr⟩

/-- **Every run.** Calls made one after another on a store that stands for a map get the
answers the map gives. -/
theorem answers (hr : st.Refines M) (cs : List (StoreCall σ ε)) :
    st.answers cs = M.answers cs := by
  induction cs generalizing st M with
  | nil => rfl
  | cons c cs ih =>
    obtain ⟨hanswer, hr'⟩ := hr.call c
    simp only [SetStore.answers, SetCatalog.answers, hanswer, ih hr']

end SetStore.Refines

/-- **A store is a map from script hashes to sets.** Take a store made with any cache size over
an open engine that holds the stored forms of the sets of a map `M` under their keys, as every
engine written only through stores does. Then any sequence of calls, made one after another,
gets the answers that `M` gives: the same errors, the same sets (so the same branches, combined
scripts and hashes), and walks that visit `M`'s sets in strictly ascending hash order up to the
visitor's first refusal. The cache size never shows. -/
theorem store_refines_catalog (e : Engine) (cacheSize : Nat) (M : SetCatalog)
    (hopen : e.closed = false) (hstored : e.contents.entries = storedEntries M.entries)
    (calls : List (StoreCall σ ε)) :
    (SetStore.make e cacheSize).answers calls = M.answers calls :=
  (SetStore.Refines.make hopen hstored cacheSize).answers calls

/-- A fresh store over an empty engine answers as the empty map: a set of one `OP_1` branch is
stored, found, deleted, and then neither fetched nor found. -/
theorem store_refines_catalog_fresh_engine :
    let s : BranchSet := ⟨[⟨⟨1⟩, [0x51]⟩], ⟨1, by decide⟩, [0x51], by decide⟩
    let calls : List (StoreCall Unit Unit) :=
      [.putSet s, .fetchSet s.scriptHash, .deleteSet s.scriptHash, .fetchSet s.scriptHash,
        .hasSet s.scriptHash]
    (Engine.empty .leveldb).closed = false ∧
      (Engine.empty .leveldb).contents.entries = storedEntries SetCatalog.empty.entries ∧
      (SetStore.make (Engine.empty .leveldb) 1).answers calls = SetCatalog.empty.answers calls :=
  ⟨rfl, rfl, store_refines_catalog _ _ _ rfl rfl _⟩

end BranchLock
