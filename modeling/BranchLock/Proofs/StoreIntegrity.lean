import Mathlib
import BranchLock.Proofs.StoreRefinement
import BranchLock.Proofs.UnlockingScripts

/-!
# What a store answers, whatever its engine holds

A store trusts nothing it reads from its engine: a stored value must read back as a set, and the
set must hash to the hash it is stored under. This module shows what that buys when anything
may have been written straight into the engine, before the store was made or between its calls.

The steps of a run (`StoreStep`) are the store's calls, writes made straight into its engine,
and closing it. From an engine whose keys ascend, as an engine keeps them, every run keeps two
facts (`SetStore.Intact`): the cache holds each set under its own hash, and the keys still
ascend. From them, after every run (`store_integrity`):

* a fetch, by hash or by address, answers only a set hashing to the hash asked for;
* a fetch the cache does not answer reads the engine, and a value there that does not read back
  as a set, or reads as a set hashing elsewhere, is refused as corrupt and leaves the hash out
  of the cache;
* a walk over the sets reads the entries under the set prefix in key order, passes over keys of
  another length, and hands its visitor, in strictly ascending hash order, exactly the sets read
  before the first corrupt entry, each under a 20-byte hash it hashes to; it ends at that entry,
  refused as corrupt and never visited, unless the visitor refuses first.

A fetch the cache answers does not read the engine, so a value written straight over the key of
a set the cache holds stays hidden (`fetchSet_after_put_ignores_engine`).
-/

namespace BranchLock

variable {σ ε : Type}

/-! ## Reading stored values -/

/-- A stored value is refused when it does not read back as a set, or when the set hashes
elsewhere. -/
theorem decodeStoredSet_eq (hash v : Bytes) :
    decodeStoredSet hash v = match BranchSet.deserialize v with
      | .error d => .error (.undecodable hash d)
      | .ok s => if s.scriptHash = hash then .ok s else .error (.misfiled hash s.scriptHash) := by
  unfold decodeStoredSet
  cases BranchSet.deserialize v with
  | error d => rfl
  | ok s =>
    by_cases h : s.scriptHash = hash
    · simp [h, bind, Except.bind, pure, Except.pure]
    · simp [h, bind, Except.bind, throw, throwThe, MonadExceptOf.throw]

/-- A stored value that reads back is a set hashing to the hash it was read under. -/
theorem scriptHash_of_decodeStoredSet {hash v : Bytes} {s : BranchSet}
    (h : decodeStoredSet hash v = .ok s) : s.scriptHash = hash := by
  rw [decodeStoredSet_eq] at h
  cases hd : BranchSet.deserialize v with
  | error d => simp [hd] at h
  | ok t =>
    simp only [hd] at h
    split at h
    · rename_i ht
      cases h
      exact ht
    · cases h

/-- Every refusal of a stored value is a corrupt-set error. -/
theorem code_of_decodeStoredSet {hash v : Bytes} {e : StoreError}
    (h : decodeStoredSet hash v = .error e) : e.code = .corruptSet := by
  rw [decodeStoredSet_eq] at h
  cases hd : BranchSet.deserialize v with
  | error d =>
    simp only [hd, Except.error.injEq] at h
    rw [← h]
    rfl
  | ok t =>
    simp only [hd] at h
    split at h
    · cases h
    · cases h
      rfl

/-! ## The keys a walk reads -/

/-- Every key of the range a walk scans is the key of some hash. -/
theorem eq_setKey_of_contains {k : Bytes}
    (h : (KeyRange.ofPrefix setKeyPrefix).contains k = true) : ∃ hash, k = setKey hash := by
  obtain ⟨hash, rfl⟩ := (KeyRange.contains_ofPrefix_iff _ _).1 h
  exact ⟨hash, rfl⟩

/-! ## Runs -/

/-- A step on a store: one of its calls, writes made straight into its engine past the store and
its cache, or closing it. -/
inductive StoreStep (σ ε : Type) where
  /-- A call of the store. -/
  | call (c : StoreCall σ ε)
  /-- Writes committed straight into the engine. -/
  | direct (ws : List Write)
  /-- Closes the store. -/
  | close

namespace SetStore

/-- The store after a step; a step that fails leaves it as it was. -/
def step (st : SetStore) : StoreStep σ ε → SetStore
  | .call c => (st.call c).1
  | .direct ws =>
    match st.engine.writeAll ws with
    | .ok e => { st with engine := e }
    | .error _ => st
  | .close =>
    match st.close with
    | .ok st' => st'
    | .error _ => st

/-- The store after steps taken one after another. -/
def run (st : SetStore) (steps : List (StoreStep σ ε)) : SetStore := steps.foldl step st

/-- The sets a walk reads from stored entries, in order and each under its hash, and the error
of the entry it stops at, if any: keys of another length than a set key's are passed over, and
the walk stops at the first entry that does not read back as a set hashing to its key. -/
def readSets : List (Bytes × Bytes) → List (Bytes × BranchSet) × Option StoreError
  | [] => ([], none)
  | (k, v) :: rest =>
    if k.length ≠ setKeyPrefix.length + 20 then readSets rest
    else
      match decodeStoredSet (k.drop setKeyPrefix.length) v with
      | .error e => ([], some e)
      | .ok s => ((k.drop setKeyPrefix.length, s) :: (readSets rest).1, (readSets rest).2)

/-- A walk that hands the visitor the sets `pairs` in order and then ends at `stop`: it ends at
the visitor's first refusal, or else at `stop`. -/
def walkThen {τ δ : Type} (f : τ → Bytes → BranchSet → Except δ τ) (init : τ)
    (pairs : List (Bytes × BranchSet)) (stop : Option StoreError) : τ × Option (VisitError δ) :=
  match SetCatalog.visit f init pairs with
  | (st, some e) => (st, some (.visitor e))
  | (st, none) => (st, stop.map .store)

end SetStore

/-! ## The invariant -/

namespace SetStore

/-- What every store reached by steps keeps: its cache holds each set under the set's own hash,
and its engine keeps its keys ascending. -/
structure Intact (st : SetStore) : Prop where
  /-- The cache holds each set under its own hash. -/
  cache_hashed : ∀ p ∈ st.cache.sets, p.2.scriptHash = p.1
  /-- The engine's keys ascend. -/
  sorted : Contents.Sorted st.engine.contents.entries

/-- Committed writes keep the keys ascending. -/
theorem sorted_applyAll {c : Contents} (h : Contents.Sorted c.entries) (ws : List Write) :
    Contents.Sorted (c.applyAll ws).entries := by
  induction ws generalizing c with
  | nil => exact h
  | cons w ws ih =>
    apply ih
    cases w with
    | put k v => exact Contents.sorted_insert k v h
    | delete k => exact Contents.sorted_remove k h

/-- Writes that an engine commits keep its keys ascending. -/
theorem sorted_of_writeAll {e e' : Engine} {ws : List Write} (h : e.writeAll ws = .ok e')
    (hs : Contents.Sorted e.contents.entries) : Contents.Sorted e'.contents.entries := by
  cases hc : e.closed with
  | true => simp [Engine.writeAll, Engine.ensureOpen, hc, bind, Except.bind] at h
  | false =>
    rw [Engine.writeAll_of_open hc] at h
    cases h
    exact sorted_applyAll hs ws

/-- A fetch changes only the cache: to what its lookup left, with at most a set added that read
back under the hash. A set it answers is the one the lookup answered, or one that read back. -/
theorem fetchSet_spec (st : SetStore) (hash : Bytes) :
    ∃ c, (st.fetchSet hash).1 = { st with cache := c } ∧
      (c = (st.cache.lookup hash).2 ∨
        ∃ v s, decodeStoredSet hash v = .ok s ∧ c = (st.cache.lookup hash).2.add hash s) ∧
      ∀ s, (st.fetchSet hash).2 = .ok s →
        (st.cache.lookup hash).1 = some s ∨ ∃ v, decodeStoredSet hash v = .ok s := by
  rcases hl : st.cache.lookup hash with ⟨_ | s, c⟩
  · -- a miss reads the engine
    cases hr : st.engine.read (setKey hash) with
    | error e => exact ⟨c, by simp [fetchSet, hl, hr], .inl rfl, by simp [fetchSet, hl, hr]⟩
    | ok o =>
      cases o with
      | none => exact ⟨c, by simp [fetchSet, hl, hr], .inl rfl, by simp [fetchSet, hl, hr]⟩
      | some v =>
        cases hd : decodeStoredSet hash v with
        | error e =>
          exact ⟨c, by simp [fetchSet, hl, hr, hd], .inl rfl, by simp [fetchSet, hl, hr, hd]⟩
        | ok s =>
          refine ⟨c.add hash s, by simp [fetchSet, hl, hr, hd], .inr ⟨v, s, hd, rfl⟩, ?_⟩
          intro s' hs'
          simp only [fetchSet, hl, hr, hd, Except.ok.injEq] at hs'
          exact .inr ⟨v, hs' ▸ hd⟩
  · -- a hit answers from the cache
    exact ⟨c, by simp [fetchSet, hl], .inl rfl,
      fun s' hs' => .inl (by simpa [fetchSet, hl] using hs')⟩

/-- A fetch the cache does not answer, of a hash whose key holds a value, answers what reading
the value gives; when it refuses the value, the cache stays as the lookup left it. -/
theorem fetchSet_of_read {st : SetStore} {hash v : Bytes} (hmiss : (st.cache.lookup hash).1 = none)
    (hread : st.engine.read (setKey hash) = .ok (some v)) :
    (st.fetchSet hash).2 = decodeStoredSet hash v ∧
      ∀ e, decodeStoredSet hash v = .error e →
        (st.fetchSet hash).1.cache = (st.cache.lookup hash).2 := by
  rcases hl : st.cache.lookup hash with ⟨_ | s, c⟩
  · cases hd : decodeStoredSet hash v with
    | error e =>
      exact ⟨by simp [fetchSet, hl, hread, hd], fun _ _ => by simp [fetchSet, hl, hread, hd]⟩
    | ok s => exact ⟨by simp [fetchSet, hl, hread, hd], fun _ h => by cases h⟩
  · rw [hl] at hmiss
    cases hmiss

namespace Intact

variable {st : SetStore}

/-- A fresh store over an engine whose keys ascend. -/
theorem make {e : Engine} (hs : Contents.Sorted e.contents.entries) (cacheSize : Nat) :
    (SetStore.make e cacheSize).Intact :=
  ⟨fun _ hp => (nomatch hp), hs⟩

/-- A fetch keeps the invariant: it only adds to the cache a set that read back under the
hash. -/
theorem fetchSet (h : st.Intact) (hash : Bytes) : (st.fetchSet hash).1.Intact := by
  obtain ⟨c, hst, hc, -⟩ := fetchSet_spec st hash
  rw [hst]
  refine ⟨fun p hp => ?_, h.sorted⟩
  rcases hc with rfl | ⟨v, s, hd, rfl⟩
  · exact h.cache_hashed p (SetCache.mem_lookup hp)
  · rcases SetCache.mem_add_or_mem hp with rfl | hp
    · exact scriptHash_of_decodeStoredSet hd
    · exact h.cache_hashed p (SetCache.mem_lookup hp)

/-- A stored set keeps the invariant: it is cached under its own hash. -/
theorem putSet (h : st.Intact) {s : BranchSet} {st' : SetStore} (hput : st.putSet s = .ok st') :
    st'.Intact := by
  obtain ⟨e, hw, hst⟩ := Except.bind_eq_ok.1 hput
  cases hst
  refine ⟨fun p hp => ?_, sorted_of_writeAll (Except.mapError_eq_ok.1 hw) h.sorted⟩
  rcases SetCache.mem_add_or_mem hp with rfl | hp
  · rfl
  · exact h.cache_hashed p hp

/-- A delete keeps the invariant. -/
theorem deleteSet (h : st.Intact) {hash : Bytes} {st' : SetStore}
    (hdel : st.deleteSet hash = .ok st') : st'.Intact := by
  obtain ⟨_, -, hdel⟩ := Except.bind_eq_ok.1 hdel
  -- the check that the hash has a set either refuses, or goes on to the write
  simp only at hdel
  split at hdel
  · simp [throw, throwThe, MonadExceptOf.throw, bind, Except.bind] at hdel
  · obtain ⟨e, hw, hst⟩ := Except.bind_eq_ok.1 hdel
    cases hst
    exact ⟨fun p hp => h.cache_hashed p (SetCache.mem_delete hp).1,
      sorted_of_writeAll (Except.mapError_eq_ok.1 hw) h.sorted⟩

/-- Every call keeps the invariant. -/
theorem call (h : st.Intact) (c : StoreCall σ ε) : (st.call c).1.Intact := by
  cases c with
  | putSet s =>
    simp only [SetStore.call]
    split
    · rename_i st' hput
      exact h.putSet hput
    · exact h
  | fetchSet hash => exact h.fetchSet hash
  | fetchByAddress a =>
    cases a <;> simp only [SetStore.call, SetStore.fetchByAddress]
    all_goals first | exact h.fetchSet _ | exact h
  | hasSet hash => exact h
  | deleteSet hash =>
    simp only [SetStore.call]
    split
    · rename_i st' hdel
      exact h.deleteSet hdel
    · exact h
  | forEachSet visit init => exact h

/-- **One step.** Every step keeps the invariant: a write straight into the engine leaves the
cache alone and the keys ascending, and closing changes neither. -/
theorem step (h : st.Intact) (s : StoreStep σ ε) : (st.step s).Intact := by
  cases s with
  | call c => exact h.call c
  | direct ws =>
    simp only [SetStore.step]
    split
    · rename_i e hw
      exact ⟨h.cache_hashed, sorted_of_writeAll hw h.sorted⟩
    · exact h
  | close =>
    simp only [SetStore.step]
    split
    · rename_i st' hclose
      obtain ⟨e, hc, hst⟩ := Except.bind_eq_ok.1 hclose
      cases hst
      exact ⟨h.cache_hashed, (Engine.contents_of_close hc) ▸ h.sorted⟩
    · exact h

/-- **Every run.** Steps taken one after another keep the invariant. -/
theorem run (h : st.Intact) (steps : List (StoreStep σ ε)) : (st.run steps).Intact := by
  induction steps generalizing st with
  | nil => exact h
  | cons s ss ih => exact ih (h.step s)

/-- A fetch answers only a set hashing to the hash asked for. -/
theorem scriptHash_of_fetchSet (h : st.Intact) {hash : Bytes} {s : BranchSet}
    (hs : (st.fetchSet hash).2 = .ok s) : s.scriptHash = hash := by
  obtain ⟨_, -, -, hans⟩ := fetchSet_spec st hash
  rcases hans s hs with hl | ⟨v, hd⟩
  · exact h.cache_hashed (hash, s) (SetCache.mem_of_lookup_eq_some hl)
  · exact scriptHash_of_decodeStoredSet hd

/-- A fetch by address answers only for a pay-to-script-hash address, and only a set hashing to
the address's hash. -/
theorem address_of_fetchByAddress (h : st.Intact) {a : Address} {s : BranchSet}
    (hs : (st.fetchByAddress a).2 = .ok s) : ∃ net, a = .scriptHash s.scriptHash net := by
  cases a with
  | scriptHash hash net =>
    rw [h.scriptHash_of_fetchSet hs]
    exact ⟨net, rfl⟩
  | _ => simp [SetStore.fetchByAddress] at hs

end Intact

/-- A fetch the cache answers does not read the engine. -/
theorem fetchSet_of_hit {st : SetStore} {hash : Bytes} {s : BranchSet}
    (h : (st.cache.lookup hash).1 = some s) : (st.fetchSet hash).2 = .ok s := by
  rcases hl : st.cache.lookup hash with ⟨_ | s', c⟩
  · rw [hl] at h
    cases h
  · rw [hl] at h
    cases h
    simp [fetchSet, hl]

/-- On an open engine, storing a set writes its stored form and caches it. -/
theorem step_putSet_of_open {st : SetStore} (hopen : st.engine.closed = false) (s : BranchSet) :
    st.step (.call (.putSet s) : StoreStep σ ε) =
      ⟨{ st.engine with contents :=
          st.engine.contents.applyAll [.put (setKey s.scriptHash) s.serialize] },
        st.cache.add s.scriptHash s⟩ := by
  simp [step, call, putSet, Engine.writeAll_of_open hopen, bind, Except.bind, pure, Except.pure]

/-- On an open engine, writes straight into it are committed. -/
theorem step_direct_of_open {st : SetStore} (hopen : st.engine.closed = false) (ws : List Write) :
    st.step (.direct ws : StoreStep σ ε) =
      { st with engine := { st.engine with contents := st.engine.contents.applyAll ws } } := by
  simp [step, Engine.writeAll_of_open hopen]

/-! ## Walks -/

/-- An entry reads as a set under a hash: the hash is its key with the prefix dropped, and its
value reads back as the set, which hashes to that hash. -/
def ReadsAs (e : Bytes × Bytes) (p : Bytes × BranchSet) : Prop :=
  e.1.drop setKeyPrefix.length = p.1 ∧ decodeStoredSet p.1 e.2 = .ok p.2

/-- A walk over stored entries hands the visitor the sets `readSets` reads, and ends where the
visitor refuses or else where the reading stops. -/
theorem visitEntries_eq_walkThen {τ δ : Type} (f : τ → Bytes → BranchSet → Except δ τ)
    (init : τ) (entries : List (Bytes × Bytes)) :
    visitEntries f init entries = walkThen f init (readSets entries).1 (readSets entries).2 := by
  induction entries generalizing init with
  | nil => rfl
  | cons e rest ih =>
    obtain ⟨k, v⟩ := e
    by_cases hk : k.length ≠ setKeyPrefix.length + 20
    · rw [visitEntries, if_pos hk, ih, readSets, if_pos hk]
    · rw [visitEntries, if_neg hk, readSets, if_neg hk]
      cases hd : decodeStoredSet (k.drop setKeyPrefix.length) v with
      | error err => simp [hd, walkThen, SetCatalog.visit]
      | ok s =>
        simp only [hd]
        cases hf : f init (k.drop setKeyPrefix.length) s with
        | error d => simp [walkThen, SetCatalog.visit, hf]
        | ok st' => simp only [walkThen, SetCatalog.visit, hf, ih]

/-- Every set read is under a 20-byte hash it hashes to, read from an entry whose key drops to
that hash. -/
theorem mem_readSets {entries : List (Bytes × Bytes)} {p : Bytes × BranchSet}
    (hp : p ∈ (readSets entries).1) :
    p.1.length = 20 ∧ p.2.scriptHash = p.1 ∧
      ∃ e ∈ entries, e.1.drop setKeyPrefix.length = p.1 := by
  induction entries with
  | nil => cases hp
  | cons e rest ih =>
    obtain ⟨k, v⟩ := e
    by_cases hk : k.length ≠ setKeyPrefix.length + 20
    · rw [readSets, if_pos hk] at hp
      obtain ⟨hlen, hhash, e, he, hdrop⟩ := ih hp
      exact ⟨hlen, hhash, e, List.mem_cons_of_mem _ he, hdrop⟩
    · rw [readSets, if_neg hk] at hp
      cases hd : decodeStoredSet (k.drop setKeyPrefix.length) v with
      | error err => simp [hd] at hp
      | ok s =>
        simp only [hd] at hp
        rcases List.mem_cons.1 hp with rfl | hp
        · refine ⟨?_, scriptHash_of_decodeStoredSet hd, (k, v), List.mem_cons_self, rfl⟩
          simp only [List.length_drop]
          omega
        · obtain ⟨hlen, hhash, e, he, hdrop⟩ := ih hp
          exact ⟨hlen, hhash, e, List.mem_cons_of_mem _ he, hdrop⟩

/-- Entries with ascending set keys are read as sets with ascending hashes. -/
theorem readSets_ascending {entries : List (Bytes × Bytes)} (hs : Contents.Sorted entries)
    (hkeys : ∀ e ∈ entries, ∃ hash, e.1 = setKey hash) :
    (readSets entries).1.Pairwise fun p q => Bytes.lt p.1 q.1 = true := by
  induction entries with
  | nil => exact List.Pairwise.nil
  | cons e rest ih =>
    obtain ⟨k, v⟩ := e
    obtain ⟨hhead, hrest⟩ := List.pairwise_cons.1 hs
    have ih := ih hrest fun e he => hkeys e (List.mem_cons_of_mem _ he)
    by_cases hk : k.length ≠ setKeyPrefix.length + 20
    · rw [readSets, if_pos hk]
      exact ih
    · rw [readSets, if_neg hk]
      cases hd : decodeStoredSet (k.drop setKeyPrefix.length) v with
      | error err => exact List.Pairwise.nil
      | ok s =>
        refine List.Pairwise.cons (fun q hq => ?_) ih
        -- both keys carry the set prefix, so they compare as their hashes do
        obtain ⟨-, -, e', he', hq⟩ := mem_readSets hq
        obtain ⟨h, hkh⟩ := hkeys (k, v) List.mem_cons_self
        obtain ⟨h', hkh'⟩ := hkeys e' (List.mem_cons_of_mem _ he')
        have hlt := hhead e' he'
        simp only at hkh
        rw [← hq, hkh, hkh', setKey, setKey, List.drop_left, List.drop_left]
        rwa [hkh, hkh', lt_setKey] at hlt

/-- Reading stored entries either reads every entry whose key has a set key's length, or stops
at the first such entry that does not read back, having read exactly those before it. -/
theorem readSets_split (entries : List (Bytes × Bytes)) :
    ((readSets entries).2 = none ∧
      List.Forall₂ ReadsAs (entries.filter (·.1.length = setKeyPrefix.length + 20))
        (readSets entries).1) ∨
    ∃ pre k v post err, entries = pre ++ (k, v) :: post ∧
      k.length = setKeyPrefix.length + 20 ∧
      decodeStoredSet (k.drop setKeyPrefix.length) v = .error err ∧
      (readSets entries).2 = some err ∧
      List.Forall₂ ReadsAs (pre.filter (·.1.length = setKeyPrefix.length + 20))
        (readSets entries).1 := by
  induction entries with
  | nil => exact .inl ⟨rfl, List.Forall₂.nil⟩
  | cons e rest ih =>
    obtain ⟨k, v⟩ := e
    by_cases hk : k.length ≠ setKeyPrefix.length + 20
    · -- a key of another length is passed over
      rw [readSets, if_pos hk]
      rcases ih with ⟨hstop, hall⟩ | ⟨pre, k', v', post, err, rfl, hk', hd, hstop, hpre⟩
      · exact .inl ⟨hstop, by simpa [List.filter_cons, hk] using hall⟩
      · exact .inr ⟨(k, v) :: pre, k', v', post, err, rfl, hk', hd, hstop,
          by simpa [List.filter_cons, hk] using hpre⟩
    · rw [readSets, if_neg hk]
      have hk : k.length = setKeyPrefix.length + 20 := not_not.1 hk
      cases hd : decodeStoredSet (k.drop setKeyPrefix.length) v with
      | error err => exact .inr ⟨[], k, v, rest, err, rfl, hk, hd, rfl, List.Forall₂.nil⟩
      | ok s =>
        -- an entry that reads back is read, ahead of what the rest gives
        have hread : ReadsAs (k, v) (k.drop setKeyPrefix.length, s) := ⟨rfl, hd⟩
        rcases ih with ⟨hstop, hall⟩ | ⟨pre, k', v', post, err, rfl, hk', hd', hstop, hpre⟩
        · refine .inl ⟨hstop, ?_⟩
          simpa [List.filter_cons, hk] using List.Forall₂.cons hread hall
        · refine .inr ⟨(k, v) :: pre, k', v', post, err, rfl, hk', hd', hstop, ?_⟩
          simpa [List.filter_cons, hk] using List.Forall₂.cons hread hpre

/-- The entries a walk scans keep the engine's ascending order. -/
theorem sorted_scan {c : Contents} (hs : Contents.Sorted c.entries) (r : KeyRange) :
    Contents.Sorted (c.scan r) :=
  List.Pairwise.filter _ hs

/-- On an open engine, a walk over the sets walks what reading the scanned entries gives. -/
theorem forEachSet_eq_walkThen {st : SetStore} (hopen : st.engine.closed = false) {τ δ : Type}
    (f : τ → Bytes → BranchSet → Except δ τ) (init : τ) :
    let r := readSets (st.engine.contents.scan (KeyRange.ofPrefix setKeyPrefix))
    st.forEachSet f init = walkThen f init r.1 r.2 := by
  intro r
  rw [forEachSet, Engine.scanNow_of_open hopen]
  exact visitEntries_eq_walkThen f init _

end SetStore

/-- **What a store answers, whatever its engine holds.** Start a store of any cache size over
an engine whose keys ascend, holding anything, and take any steps: calls of the store, writes
straight into its engine, closing it. Afterwards:

* a fetch answers only a set hashing to the hash asked for, and a fetch by address only for a
  pay-to-script-hash address, with a set hashing to its hash;
* when the cache does not answer a hash and the engine holds a value under its key, a value
  that does not read back is refused as undecodable and one that reads as a set hashing
  elsewhere as misfiled; every refusal is a corrupt-set error and leaves the hash out of the
  cache;
* on an open engine, a walk hands its visitor, in order, sets `pairs` under 20-byte hashes they
  hash to, in strictly ascending hash order, and then ends at `stop` unless the visitor refused
  first. Either the walk read every scanned entry whose key has a set key's length, and `pairs`
  are what they read as, or it stopped at the first such entry that does not read back, with its
  corrupt-set error, and `pairs` are what the entries before it read as. -/
theorem store_integrity {e : Engine} (hsorted : Contents.Sorted e.contents.entries)
    (cacheSize : Nat) (steps : List (StoreStep σ ε)) :
    let st := (SetStore.make e cacheSize).run steps
    (∀ hash s, (st.fetchSet hash).2 = .ok s → s.scriptHash = hash) ∧
    (∀ a s, (st.fetchByAddress a).2 = .ok s → ∃ net, a = .scriptHash s.scriptHash net) ∧
    (∀ hash v, (st.cache.lookup hash).1 = none → st.engine.read (setKey hash) = .ok (some v) →
      (∀ d, BranchSet.deserialize v = .error d →
        (st.fetchSet hash).2 = .error (.undecodable hash d)) ∧
      (∀ s, BranchSet.deserialize v = .ok s → s.scriptHash ≠ hash →
        (st.fetchSet hash).2 = .error (.misfiled hash s.scriptHash)) ∧
      ∀ err, (st.fetchSet hash).2 = .error err →
        err.code = .corruptSet ∧ (st.fetchSet hash).1.cache.contains hash = false) ∧
    ∀ {τ δ : Type} (f : τ → Bytes → BranchSet → Except δ τ) (init : τ),
      st.engine.closed = false →
      let entries := st.engine.contents.scan (KeyRange.ofPrefix setKeyPrefix)
      ∃ pairs stop, st.forEachSet f init = SetStore.walkThen f init pairs stop ∧
        (∀ p ∈ pairs, p.1.length = 20 ∧ p.2.scriptHash = p.1) ∧
        pairs.Pairwise (fun p q => Bytes.lt p.1 q.1 = true) ∧
        ((stop = none ∧ List.Forall₂ SetStore.ReadsAs
            (entries.filter (·.1.length = setKeyPrefix.length + 20)) pairs) ∨
          ∃ pre k v post err, entries = pre ++ (k, v) :: post ∧
            k.length = setKeyPrefix.length + 20 ∧
            decodeStoredSet (k.drop setKeyPrefix.length) v = .error err ∧
            err.code = .corruptSet ∧ stop = some err ∧
            List.Forall₂ SetStore.ReadsAs
              (pre.filter (·.1.length = setKeyPrefix.length + 20)) pairs) := by
  intro st
  have h : st.Intact := (SetStore.Intact.make hsorted cacheSize).run steps
  refine ⟨fun hash s hs => h.scriptHash_of_fetchSet hs,
    fun a s hs => h.address_of_fetchByAddress hs, fun hash v hmiss hread => ?_,
    fun f init hopen => ?_⟩
  · -- a fetch that misses the cache answers what reading the value gives
    obtain ⟨hans, hcache⟩ := SetStore.fetchSet_of_read hmiss hread
    refine ⟨fun d hd => ?_, fun s hd hne => ?_, fun err herr => ?_⟩
    · rw [hans, decodeStoredSet_eq, hd]
    · simp [hans, decodeStoredSet_eq, hd, hne]
    · rw [hans] at herr
      refine ⟨code_of_decodeStoredSet herr, ?_⟩
      rw [hcache err herr]
      exact SetCache.contains_lookup_of_none hmiss
  · -- a walk reads the scanned entries, whose keys ascend and carry the set prefix
    intro entries
    have hkeys : ∀ e ∈ entries, ∃ hash, e.1 = setKey hash :=
      fun e he => eq_setKey_of_contains (List.mem_filter.1 he).2
    refine ⟨_, _, SetStore.forEachSet_eq_walkThen hopen f init,
      fun p hp => ⟨(SetStore.mem_readSets hp).1, (SetStore.mem_readSets hp).2.1⟩,
      SetStore.readSets_ascending (SetStore.sorted_scan h.sorted _) hkeys, ?_⟩
    rcases SetStore.readSets_split entries with hall | ⟨pre, k, v, post, err, hsplit, hk, hd,
      hstop, hpre⟩
    · exact .inl hall
    · exact .inr ⟨pre, k, v, post, err, hsplit, hk, hd, code_of_decodeStoredSet hd, hstop,
        hpre⟩

/-- Twenty `0x01` bytes as a hash, whose key is given the single byte `0x00` straight in an
empty engine: the fetch refuses it as undecodable, with the unknown version `0`, and leaves it
out of the cache. -/
theorem store_integrity_undecodable :
    let st := (SetStore.make (Engine.empty .leveldb) 0).run
      [(.direct [.put (setKey (List.replicate 20 1)) [0x00]] : StoreStep Unit Unit)]
    Contents.Sorted (Engine.empty .leveldb).contents.entries ∧
      (st.fetchSet (List.replicate 20 1)).2 =
        .error (.undecodable (List.replicate 20 1) (.version 0)) ∧
      (st.fetchSet (List.replicate 20 1)).1.cache.contains (List.replicate 20 1) = false := by
  intro st
  have hsorted : Contents.Sorted (Engine.empty .leveldb).contents.entries := List.Pairwise.nil
  obtain ⟨-, -, hmiss, -⟩ := store_integrity hsorted 0
    [(.direct [.put (setKey (List.replicate 20 1)) [0x00]] : StoreStep Unit Unit)]
  have hl : (st.cache.lookup (List.replicate 20 1)).1 = none := rfl
  have hengine : st.engine = { Engine.empty .leveldb with
      contents := ⟨[(setKey (List.replicate 20 1), [0x00])]⟩ } := by
    simp [st, SetStore.run, SetStore.step_direct_of_open, SetStore.make, Contents.applyAll,
      Contents.apply, Contents.put, Contents.insert, Engine.empty]
  have hr : st.engine.read (setKey (List.replicate 20 1)) = .ok (some [0x00]) := by
    rw [hengine, Engine.read_of_open rfl]
    simp [Contents.find?, Contents.lookup]
  have hd : BranchSet.deserialize [0x00] = .error (.version 0) := rfl
  obtain ⟨hundecodable, -, hcorrupt⟩ := hmiss _ _ hl hr
  have hans := hundecodable _ hd
  exact ⟨hsorted, hans, (hcorrupt _ hans).2⟩

/-- A set stored in an empty store of the default cache size, and then any value written
straight over its key: the engine holds the value, and a fetch still answers the set, from the
cache. -/
theorem fetchSet_after_put_ignores_engine (s : BranchSet) (v : Bytes) :
    let st := (SetStore.make (Engine.empty .leveldb) 0).run
      [(.call (.putSet s) : StoreStep Unit Unit), .direct [.put (setKey s.scriptHash) v]]
    st.engine.read (setKey s.scriptHash) = .ok (some v) ∧
      (st.fetchSet s.scriptHash).2 = .ok s := by
  intro st
  -- the engine stays open, so the set is stored and cached, and its key then overwritten
  have hst : st =
      ⟨{ Engine.empty .leveldb with contents := ⟨[(setKey s.scriptHash, v)]⟩ },
        ({ limit := SetStore.defaultCacheSize } : SetCache).add s.scriptHash s⟩ := by
    simp [st, SetStore.run, SetStore.step_putSet_of_open, SetStore.step_direct_of_open,
      SetStore.make, Contents.applyAll, Contents.apply, Contents.put, Contents.insert,
      SetStore.defaultCacheSize, Engine.empty]
  refine ⟨?_, SetStore.fetchSet_of_hit ?_⟩
  · rw [hst, Engine.read_of_open rfl]
    simp [Contents.find?, Contents.lookup]
  · rw [hst]
    exact SetCache.lookup_add_empty (by decide) _ _

/-- The set of one `OP_1` branch, stored, and then the byte `0x00`, which does not read back as
a set, written straight over its key: the fetch answers the set, and reports no corruption. -/
theorem cached_set_hides_engine :
    let st := (SetStore.make (Engine.empty .leveldb) 0).run
      [(.call (.putSet oneKeySet) : StoreStep Unit Unit),
        .direct [.put (setKey oneKeySet.scriptHash) [0x00]]]
    st.engine.read (setKey oneKeySet.scriptHash) = .ok (some [0x00]) ∧
      BranchSet.deserialize [0x00] = .error (.version 0) ∧
      (st.fetchSet oneKeySet.scriptHash).2 = .ok oneKeySet :=
  ⟨(fetchSet_after_put_ignores_engine _ _).1, rfl, (fetchSet_after_put_ignores_engine _ _).2⟩

end BranchLock
