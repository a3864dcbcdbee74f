import Mathlib
import BranchLock.Proofs.StoreRefinement

/-!
# Store calls made side by side

A store is meant to be shared between callers. Each call is a short sequence of atomic steps:
a commit to the engine, a read from a snapshot taken then, or one call on the cache, which takes
the cache's lock for that call only. Calls made side by side interleave these steps in any
order. `Shared` models that: every caller is a `Pending` call, and a schedule of positions says
whose step comes next. This module shows:

* a call whose steps run with nothing in between does exactly what the call does when made alone
  (`run_alone`), so every sequential run is one of the interleavings;
* calls on pairwise different script hashes are linearizable: once all have returned, their
  answers are the ones the map gives to the calls made one after another in the order they are
  listed, and the store stands for the map after them (`run_linearizes`);
* calls on one hash are not. A fetch reads a set from its snapshot, a delete of the hash then
  commits and clears the cache, and only then does the fetch cache the set it read. Both calls
  return, the engine no longer holds the set but the cache does, so a later `hasSet` answers
  true and a later `fetchSet` answers the deleted set (`fetch_delete_race`), and no order of the
  two calls gives those answers (`race_answers_not_sequential`).

`shared_store_calls` states both halves together.

The cache is written after the engine step it follows, and never checked against the engine
again: it is right under a hash as long as the call that last wrote the engine under that hash
is also the last one to write the cache under it, and calls on different hashes never contest
that. The invariant `Shared.Coherent` says so, against the map `M` the calls started from and
the map `Mc` the engine holds now: each call's `Progress` records how far it got and what it
has seen of `M`, hashes no call is about still hold `M`'s sets, and the cache agrees with `Mc`
except under the hash of a call that has written the engine and not yet the cache
(`Pending.cacheLags`). One lemma per kind of step keeps it (`Coherent.step`), a run keeps it by
induction on the schedule (`Coherent.run`), and once every call has returned it yields the
answers and the map of the calls made one after another (`Coherent.all_returned`,
`SetCatalog.ext_find?`).
-/

namespace BranchLock

/-! ## Calls as steps -/

/-- A call that may be made beside others; each is about one script hash. -/
inductive SharedCall where
  | putSet (s : BranchSet)
  | fetchSet (hash : Bytes)
  | hasSet (hash : Bytes)
  | deleteSet (hash : Bytes)

namespace SharedCall

/-- The script hash a call is about. -/
def hash : SharedCall → Bytes
  | putSet s => s.scriptHash
  | fetchSet hash | hasSet hash | deleteSet hash => hash

/-- The call when made alone. -/
@[simp] def alone : SharedCall → StoreCall Unit Unit
  | putSet s => .putSet s
  | fetchSet hash => .fetchSet hash
  | hasSet hash => .hasSet hash
  | deleteSet hash => .deleteSet hash

end SharedCall

/-- A call under way: the atomic step it takes next, or the answer it returned. -/
inductive Pending where
  /-- A store commits the set's stored form next. -/
  | commitPut (s : BranchSet)
  /-- A store caches the set it committed next. -/
  | cachePut (s : BranchSet)
  /-- A fetch looks the hash up in the cache next. -/
  | lookupFetch (hash : Bytes)
  /-- A fetch reads the hash from a snapshot next. -/
  | readFetch (hash : Bytes)
  /-- A fetch caches the set it read next. -/
  | cacheFetch (hash : Bytes) (s : BranchSet)
  /-- A question asks the cache next. -/
  | askHas (hash : Bytes)
  /-- A question reads the hash from a snapshot next. -/
  | readHas (hash : Bytes)
  /-- A delete asks the cache whether the hash has a set next. -/
  | askDelete (hash : Bytes)
  /-- A delete reads the hash from a snapshot next. -/
  | readDelete (hash : Bytes)
  /-- A delete commits the deletion next. -/
  | commitDelete (hash : Bytes)
  /-- A delete clears the hash from the cache next. -/
  | clearDelete (hash : Bytes)
  /-- The call has returned. -/
  | returned (answer : StoreAnswer Unit Unit)

/-- A call before its first step. -/
@[simp] def SharedCall.start : SharedCall → Pending
  | .putSet s => .commitPut s
  | .fetchSet hash => .lookupFetch hash
  | .hasSet hash => .askHas hash
  | .deleteSet hash => .askDelete hash

namespace Pending

/-- One atomic step of a call: the store after it, and how far the call has got. -/
def step (st : SetStore) : Pending → SetStore × Pending
  | commitPut s =>
    match st.engine.writeAll [.put (setKey s.scriptHash) s.serialize] with
    | .ok e => ({ st with engine := e }, cachePut s)
    | .error err => (st, returned (.done (.error (.engine "unable to start transaction" err))))
  | cachePut s => ({ st with cache := st.cache.add s.scriptHash s }, returned (.done (.ok ())))
  | lookupFetch hash =>
    match st.cache.lookup hash with
    | (some s, cache) => ({ st with cache := cache }, returned (.set (.ok s)))
    | (none, cache) => ({ st with cache := cache }, readFetch hash)
  | readFetch hash =>
    match st.engine.read (setKey hash) with
    | .error err => (st, returned (.set (.error (.engine "unable to open snapshot" err))))
    | .ok none => (st, returned (.set (.error (.notFound hash))))
    | .ok (some v) =>
      match decodeStoredSet hash v with
      | .error err => (st, returned (.set (.error err)))
      | .ok s => (st, cacheFetch hash s)
  | cacheFetch hash s => ({ st with cache := st.cache.add hash s }, returned (.set (.ok s)))
  | askHas hash =>
    if st.cache.contains hash then (st, returned (.answer (.ok true))) else (st, readHas hash)
  | readHas hash =>
    (st, returned (.answer (((st.engine.read (setKey hash)).map Option.isSome).mapError
      (.engine "unable to open snapshot"))))
  | askDelete hash =>
    if st.cache.contains hash then (st, commitDelete hash) else (st, readDelete hash)
  | readDelete hash =>
    match st.engine.read (setKey hash) with
    | .error err => (st, returned (.done (.error (.engine "unable to open snapshot" err))))
    | .ok none => (st, returned (.done (.error (.notFound hash))))
    | .ok (some _) => (st, commitDelete hash)
  | commitDelete hash =>
    match st.engine.writeAll [.delete (setKey hash)] with
    | .ok e => ({ st with engine := e }, clearDelete hash)
    | .error err => (st, returned (.done (.error (.engine "unable to start transaction" err))))
  | clearDelete hash => ({ st with cache := st.cache.delete hash }, returned (.done (.ok ())))
  | returned answer => (st, returned answer)

/-- The answer a call returned, if it has. -/
def answer? : Pending → Option (StoreAnswer Unit Unit)
  | returned answer => some answer
  | _ => none

end Pending

/-- Calls made side by side on a store, each with how far it has got. -/
structure Shared where
  /-- The store they share. -/
  store : SetStore
  /-- The calls, by position. -/
  calls : List (SharedCall × Pending)

namespace Shared

/-- Calls about to be made side by side. -/
@[simp] def start (st : SetStore) (cs : List SharedCall) : Shared :=
  ⟨st, cs.map fun c => (c, c.start)⟩

/-- The call at a position takes its next step; a position with no call changes nothing. -/
def step (sys : Shared) (i : Nat) : Shared :=
  match sys.calls[i]? with
  | none => sys
  | some (c, p) => ⟨(p.step sys.store).1, sys.calls.set i (c, (p.step sys.store).2)⟩

/-- The calls take their steps in the order of a schedule of positions. -/
@[simp] def run (sys : Shared) : List Nat → Shared
  | [] => sys
  | i :: is => (sys.step i).run is

end Shared

/-- One call alone takes its step at position zero. -/
@[simp] theorem Shared.step_single (st : SetStore) (c : SharedCall) (p : Pending) :
    (⟨st, [(c, p)]⟩ : Shared).step 0 = ⟨(p.step st).1, [(c, (p.step st).2)]⟩ := rfl

/-- **A call made alone.** A call whose steps run with nothing in between answers what the call
answers when made alone, and leaves the store as the call leaves it. -/
theorem run_alone (st : SetStore) (c : SharedCall) :
    (Shared.start st [c]).run [0, 0, 0, 0] =
      ⟨(st.call c.alone).1, [(c, .returned (st.call c.alone).2)]⟩ := by
  -- each case follows the branches the call takes: a cache answer, an engine answer or error
  cases c with
  | putSet s =>
    cases hw : st.engine.writeAll [.put (setKey s.scriptHash) s.serialize] <;>
      simp [Pending.step, SetStore.call, SetStore.putSet, hw, bind, Except.bind, Except.mapError,
        pure, Except.pure]
  | fetchSet hash =>
    rcases hl : st.cache.lookup hash with ⟨_ | s, cache⟩
    · rcases hr : st.engine.read (setKey hash) with err | _ | v
      · simp [Pending.step, SetStore.call, SetStore.fetchSet, hl, hr]
      · simp [Pending.step, SetStore.call, SetStore.fetchSet, hl, hr]
      · cases hd : decodeStoredSet hash v <;>
          simp [Pending.step, SetStore.call, SetStore.fetchSet, hl, hr, hd]
    · simp [Pending.step, SetStore.call, SetStore.fetchSet, hl]
  | hasSet hash =>
    by_cases hc : st.cache.contains hash <;>
      simp [Pending.step, SetStore.call, SetStore.hasSet, hc]
  | deleteSet hash =>
    by_cases hc : st.cache.contains hash
    · cases hw : st.engine.writeAll [.delete (setKey hash)] <;>
        simp [Pending.step, SetStore.call, SetStore.deleteSet, SetStore.hasSet, hc, hw, bind,
          Except.bind, Except.mapError, pure, Except.pure]
    · rcases hr : st.engine.read (setKey hash) with err | _ | v
      · simp [Pending.step, SetStore.call, SetStore.deleteSet, SetStore.hasSet, hc, hr, bind,
          Except.bind, Except.mapError, Except.map]
      · simp [Pending.step, SetStore.call, SetStore.deleteSet, SetStore.hasSet, hc, hr, bind,
          Except.bind, Except.mapError, Except.map, throw, throwThe, MonadExceptOf.throw]
      · cases hw : st.engine.writeAll [.delete (setKey hash)] <;>
          simp [Pending.step, SetStore.call, SetStore.deleteSet, SetStore.hasSet, hc, hr, hw, bind,
            Except.bind, Except.mapError, Except.map, pure, Except.pure]

/-! ## A fetch and a delete of one hash -/

namespace SetCatalog

/-- A map with a hash erased holds nothing under it. -/
@[simp] theorem find?_erase_self (M : SetCatalog) (hash : Bytes) :
    (M.erase hash).find? hash = none :=
  Contents.lookup_remove_same _ _

/-- Erasing a hash leaves every other hash as it was. -/
theorem find?_erase_of_ne (M : SetCatalog) {hash k : Bytes} (hk : k ≠ hash) :
    (M.erase hash).find? k = M.find? k :=
  Contents.lookup_remove_of_ne hk _

/-- A map with a set put holds it under its script hash. -/
@[simp] theorem find?_put_self (M : SetCatalog) (s : BranchSet) :
    (M.put s).find? s.scriptHash = some s :=
  Contents.lookup_insert_same _ _ _

/-- Putting a set leaves every other hash as it was. -/
theorem find?_put_of_ne (M : SetCatalog) {s : BranchSet} {k : Bytes} (hk : k ≠ s.scriptHash) :
    (M.put s).find? k = M.find? k :=
  Contents.lookup_insert_of_ne hk _ _

end SetCatalog

/-- A fresh store's cache is empty, with a positive limit. -/
theorem SetStore.make_eq (e : Engine) (cacheSize : Nat) :
    ∃ limit, 0 < limit ∧ SetStore.make e cacheSize = ⟨e, { limit := limit }⟩ := by
  refine ⟨_, ?_, rfl⟩
  split
  · decide
  · omega

/-- **A fetch and a delete race.** Over a fresh store whose engine holds a set under a hash, a
fetch of the hash that reads it, then a whole delete of the hash, then the fetch caching what
it read: both calls succeed, the engine no longer holds the set, and the cache still does, so
the store goes on answering that the hash has the deleted set. -/
theorem fetch_delete_race {e : Engine} {M : SetCatalog} (hopen : e.closed = false)
    (hstored : e.contents.entries = storedEntries M.entries) (cacheSize : Nat) {hash : Bytes}
    {s : BranchSet} (hs : M.find? hash = some s) :
    let sys := (Shared.start (SetStore.make e cacheSize) [.fetchSet hash, .deleteSet hash]).run
      [0, 0, 1, 1, 1, 1, 0]
    sys.calls.map (·.2) = [.returned (.set (.ok s)), .returned (.done (.ok ()))] ∧
      sys.store.engine.read (setKey hash) = .ok none ∧
      sys.store.hasSet hash = .ok true ∧ (sys.store.fetchSet hash).2 = .ok s := by
  obtain ⟨limit, hlimit, hmake⟩ := SetStore.make_eq e cacheSize
  have hread : e.read (setKey hash) = .ok (some s.serialize) := by
    rw [read_stored hopen hstored, hs]
    rfl
  have hdecode : decodeStoredSet hash s.serialize = .ok s := decodeStoredSet_of_find? hs
  -- the delete's commit leaves an open engine without the hash
  have hopen' : ({ e with contents := e.contents.applyAll [.delete (setKey hash)] } :
      Engine).closed = false := hopen
  have hgone : ({ e with contents := e.contents.applyAll [.delete (setKey hash)] } : Engine).read
      (setKey hash) = .ok none := by
    rw [read_stored hopen' (stored_erase hstored hash), SetCatalog.find?_erase_self]
    rfl
  -- the fetch caches the set into the cache the delete has just cleared
  have hcache : (({ limit := limit } : SetCache).delete hash).add hash s =
      { limit := limit, recent := [hash], sets := [(hash, s)] } := by
    have h1 : ¬ 1 > limit := by omega
    have h2 : ¬ 1 > 2 * limit := by omega
    simp [SetCache.delete, SetCache.add, SetCache.remember, hlimit.ne', h1, h2]
  simp [hmake, Shared.step, Pending.step, SetCache.lookup, SetCache.contains, hread, hdecode,
    Engine.writeAll_of_open hopen, hgone, hcache, SetStore.hasSet, SetStore.fetchSet,
    SetCache.touch]

/-- No order of the racing fetch and delete, followed by the question, gives the answers the
race gave. -/
theorem race_answers_not_sequential (M : SetCatalog) (hash : Bytes) (s : BranchSet) :
    M.answers ([.fetchSet hash, .deleteSet hash, .hasSet hash] : List (StoreCall Unit Unit)) ≠
        [.set (.ok s), .done (.ok ()), .answer (.ok true)] ∧
      M.answers ([.deleteSet hash, .fetchSet hash, .hasSet hash] : List (StoreCall Unit Unit)) ≠
        [.done (.ok ()), .set (.ok s), .answer (.ok true)] := by
  cases hf : M.find? hash <;>
    simp [SetCatalog.answers, SetCatalog.call, SetCatalog.delete, SetCatalog.has,
      SetCatalog.fetch, hf]

/-! ## Calls on different hashes -/

namespace SetCatalog

/-- A map is determined by the set it gives each hash. -/
theorem ext_find? {M M' : SetCatalog} (h : ∀ hash, M.find? hash = M'.find? hash) : M = M' := by
  obtain ⟨es, hs, hh⟩ := M
  obtain ⟨es', hs', hh'⟩ := M'
  obtain rfl : es = es' := Contents.eq_of_lookup_eq hs hs' h
  rfl

/-- The map after calls made one after another. -/
def after {σ ε : Type} (M : SetCatalog) : List (StoreCall σ ε) → SetCatalog
  | [] => M
  | c :: cs => (M.call c).1.after cs

end SetCatalog

namespace SharedCall

/-- A call changes the map only under its own hash. -/
theorem find?_call_of_ne (M : SetCatalog) (c : SharedCall) {k : Bytes} (hk : k ≠ c.hash) :
    (M.call c.alone).1.find? k = M.find? k := by
  cases c with
  | putSet s => exact M.find?_put_of_ne hk
  | fetchSet _ | hasSet _ => rfl
  | deleteSet h =>
    simp only [hash] at hk
    by_cases hhas : M.has h <;>
      simp [alone, SetCatalog.call, SetCatalog.delete, hhas, M.find?_erase_of_ne hk]

/-- What a call answers, and what the map then gives its hash, depend only on what the map gave
its hash before. -/
theorem call_congr {M M' : SetCatalog} (c : SharedCall) (h : M.find? c.hash = M'.find? c.hash) :
    (M.call c.alone).2 = (M'.call c.alone).2 ∧
      (M.call c.alone).1.find? c.hash = (M'.call c.alone).1.find? c.hash := by
  cases c with
  | putSet s => simp [alone, hash, SetCatalog.call]
  | fetchSet k | hasSet k =>
    simp only [hash] at h
    simp [alone, hash, SetCatalog.call, SetCatalog.fetch, SetCatalog.has, h]
  | deleteSet k =>
    simp only [hash] at h
    have hhas : M.has k = M'.has k := by simp [SetCatalog.has, h]
    by_cases hk : M.has k <;>
      simp [alone, hash, SetCatalog.call, SetCatalog.delete, ← hhas, hk, h]

variable {cs : List SharedCall}

/-- Calls on pairwise different hashes, made one after another, each answer what they answer
when made first. -/
theorem answers_of_nodup (M : SetCatalog) (hcs : (cs.map hash).Nodup) :
    M.answers (cs.map alone) = cs.map fun c => (M.call c.alone).2 := by
  induction cs generalizing M with
  | nil => rfl
  | cons c cs ih =>
    obtain ⟨hc, hcs⟩ := List.nodup_cons.1 hcs
    simp only [List.map_cons, SetCatalog.answers, ih _ hcs, List.cons.injEq, true_and]
    refine List.map_congr_left fun c' hc' => ?_
    have hne : c'.hash ≠ c.hash := fun heq => hc (heq ▸ List.mem_map_of_mem hc')
    exact (call_congr c' (find?_call_of_ne M c hne)).1

/-- Under a hash no call is about, calls made one after another leave the map's set. -/
theorem find?_after_of_not_mem (M : SetCatalog) {k : Bytes} (hk : k ∉ cs.map hash) :
    (M.after (cs.map alone)).find? k = M.find? k := by
  induction cs generalizing M with
  | nil => rfl
  | cons c cs ih =>
    simp only [List.map_cons, List.mem_cons, not_or] at hk
    simp only [List.map_cons, SetCatalog.after]
    rw [ih _ hk.2, find?_call_of_ne M c hk.1]

/-- Under the hash of one of calls on pairwise different hashes, calls made one after another
leave what that call alone leaves. -/
theorem find?_after_of_mem (M : SetCatalog) (hcs : (cs.map hash).Nodup) {c : SharedCall}
    (hc : c ∈ cs) : (M.after (cs.map alone)).find? c.hash = (M.call c.alone).1.find? c.hash := by
  induction cs generalizing M with
  | nil => cases hc
  | cons c' cs ih =>
    obtain ⟨hc', hcs⟩ := List.nodup_cons.1 hcs
    simp only [List.map_cons, SetCatalog.after]
    rcases List.mem_cons.1 hc with rfl | hc
    · exact find?_after_of_not_mem _ hc'
    · have hne : c.hash ≠ c'.hash := fun heq => hc' (heq ▸ List.mem_map_of_mem hc)
      rw [ih _ hcs hc]
      exact (call_congr c (find?_call_of_ne M c' hne)).2

end SharedCall

/-- How far a call has got, against the map `M` the calls started from, where `v` is the set
the engine now holds under the call's hash. Up to its engine write a call has seen only what
`M` holds under its hash; a returned call answered what it answers on `M` alone. -/
inductive Progress (M : SetCatalog) : SharedCall → Pending → Option BranchSet → Prop
  | commitPut (s : BranchSet) : Progress M (.putSet s) (.commitPut s) (M.find? s.scriptHash)
  | cachePut (s : BranchSet) : Progress M (.putSet s) (.cachePut s) (some s)
  | lookupFetch (hash : Bytes) : Progress M (.fetchSet hash) (.lookupFetch hash) (M.find? hash)
  | readFetch (hash : Bytes) : Progress M (.fetchSet hash) (.readFetch hash) (M.find? hash)
  | cacheFetch {hash : Bytes} {s : BranchSet} (hs : M.find? hash = some s) :
      Progress M (.fetchSet hash) (.cacheFetch hash s) (some s)
  | askHas (hash : Bytes) : Progress M (.hasSet hash) (.askHas hash) (M.find? hash)
  | readHas (hash : Bytes) : Progress M (.hasSet hash) (.readHas hash) (M.find? hash)
  | askDelete (hash : Bytes) : Progress M (.deleteSet hash) (.askDelete hash) (M.find? hash)
  | readDelete (hash : Bytes) : Progress M (.deleteSet hash) (.readDelete hash) (M.find? hash)
  | commitDelete {hash : Bytes} (hhas : M.has hash = true) :
      Progress M (.deleteSet hash) (.commitDelete hash) (M.find? hash)
  | clearDelete {hash : Bytes} (hhas : M.has hash = true) :
      Progress M (.deleteSet hash) (.clearDelete hash) none
  | returned (c : SharedCall) :
      Progress M c (.returned (M.call c.alone).2) ((M.call c.alone).1.find? c.hash)

/-- A call that has returned what it returns on the map alone, with the engine holding what
the map then holds under its hash, has made its progress. -/
theorem Progress.returned_of {M : SetCatalog} {c : SharedCall} {a : StoreAnswer Unit Unit}
    {v : Option BranchSet} (ha : (M.call c.alone).2 = a)
    (hv : (M.call c.alone).1.find? c.hash = v) : Progress M c (.returned a) v := by
  subst ha hv
  exact .returned c

/-- Whether the call has written the engine under its hash and has yet to write the cache
under it: until it does, the cache may still hold what the engine held before. -/
def Pending.cacheLags : Pending → Bool
  | .cachePut _ | .clearDelete _ => true
  | _ => false

namespace Shared

/-- The hashes of the calls, by position. -/
def hashes (sys : Shared) : List Bytes := sys.calls.map fun q => q.1.hash

/-- A step of the call at position `i` runs its next atomic step on the store and records
where the call stands. -/
theorem step_of_getElem? {sys : Shared} {i : Nat} {c : SharedCall} {p : Pending}
    (hi : sys.calls[i]? = some (c, p)) :
    sys.step i = ⟨(p.step sys.store).1, sys.calls.set i (c, (p.step sys.store).2)⟩ := by
  rw [step, hi]

section Positions

variable {α β : Type} {l : List α} {i : Nat} {a x : α}

/-- Replacing the element at a position by one that `f` cannot tell from it leaves the list's
image under `f`. -/
theorem map_set_of_getElem? (f : α → β) (x : α) (hi : l[i]? = some a) (hf : f x = f a) :
    (l.set i x).map f = l.map f := by
  have hlen : i < l.length := (List.getElem?_eq_some_iff.1 hi).1
  rw [List.map_set]
  refine List.ext_getElem? fun j => ?_
  rw [List.getElem?_set, List.length_map]
  split
  · rename_i hij
    subst hij
    rw [List.getElem?_map, hi, hf]
    rfl
  · rfl

/-- An element elsewhere than at the replaced position stays in the list. -/
theorem mem_set_of_ne (hi : l[i]? = some a) {q : α} (hq : q ∈ l) (hne : q ≠ a) :
    q ∈ l.set i x := by
  obtain ⟨j, hj⟩ := List.mem_iff_getElem?.1 hq
  refine List.mem_iff_getElem?.2 ⟨j, ?_⟩
  rw [List.getElem?_set, if_neg]
  · exact hj
  · rintro rfl
    exact hne (Option.some.inj (hj.symm.trans hi))

end Positions

/-- A step leaves the call at every position. -/
theorem fst_step (sys : Shared) (i : Nat) :
    (sys.step i).calls.map Prod.fst = sys.calls.map Prod.fst := by
  rcases hi : sys.calls[i]? with _ | ⟨c, p⟩
  · simp only [step, hi]
  · rw [step_of_getElem? hi]
    exact map_set_of_getElem? Prod.fst _ hi rfl

/-- A run leaves the call at every position. -/
theorem fst_run (sys : Shared) (schedule : List Nat) :
    (sys.run schedule).calls.map Prod.fst = sys.calls.map Prod.fst := by
  induction schedule generalizing sys with
  | nil => rfl
  | cons i is ih => rw [run, ih, fst_step]

/-- The hashes of a system are those of its calls, in order. -/
theorem hashes_eq (sys : Shared) : sys.hashes = (sys.calls.map Prod.fst).map SharedCall.hash := by
  simp [hashes, Function.comp_def]

end Shared

/-- Calls on pairwise different hashes under way on a store, against the map `M` they started
from, with the engine now holding the stored forms of the map `Mc`. Under a hash no call is
about, `Mc` is still `M`; the cache agrees with `Mc` except under the hash of a call that has
written the engine and not yet the cache. -/
structure Shared.Coherent (M : SetCatalog) (sys : Shared) (Mc : SetCatalog) : Prop where
  /-- The calls are about pairwise different hashes. -/
  distinct : sys.hashes.Nodup
  /-- The engine is open. -/
  engineOpen : sys.store.engine.closed = false
  /-- The engine holds the stored forms of `Mc`. -/
  stored : sys.store.engine.contents.entries = storedEntries Mc.entries
  /-- The cache can hold sets. -/
  limitPos : 0 < sys.store.cache.limit
  /-- Each call has got as far as it says, with the engine's set under its hash. -/
  progress : ∀ q ∈ sys.calls, Progress M q.1 q.2 (Mc.find? q.1.hash)
  /-- Under hashes no call is about, nothing has changed. -/
  untouched : ∀ hash ∉ sys.hashes, Mc.find? hash = M.find? hash
  /-- The cache keeps `Mc`'s sets, or is behind the engine under a call's hash. -/
  cached : ∀ p ∈ sys.store.cache.sets,
    Mc.find? p.1 = some p.2 ∨ ∃ q ∈ sys.calls, q.1.hash = p.1 ∧ q.2.cacheLags = true

namespace Shared.Coherent

variable {M Mc : SetCatalog} {sys : Shared}

/-- Calls over a store that stands for a map, on pairwise different hashes, start coherent. -/
theorem start {st : SetStore} (hr : st.Refines M) {cs : List SharedCall}
    (hcs : (cs.map SharedCall.hash).Nodup) : (Shared.start st cs).Coherent M M where
  distinct := by simpa [Shared.hashes, Function.comp_def] using hcs
  engineOpen := hr.engineOpen
  stored := hr.stored
  limitPos := hr.limitPos
  progress q hq := by
    obtain ⟨c, -, rfl⟩ := List.mem_map.1 hq
    cases c with
    | putSet s => exact .commitPut s
    | fetchSet hash => exact .lookupFetch hash
    | hasSet hash => exact .askHas hash
    | deleteSet hash => exact .askDelete hash
  untouched _ _ := rfl
  cached p hp := .inl (hr.cached p hp)

/-- Under the hash of a call that is not behind, the cache keeps the engine's set. -/
theorem cached_own (h : sys.Coherent M Mc) {c : SharedCall} {p : Pending}
    (hq : (c, p) ∈ sys.calls) (hlag : p.cacheLags = false) {e : Bytes × BranchSet}
    (he : e ∈ sys.store.cache.sets) (hown : e.1 = c.hash) : Mc.find? e.1 = some e.2 := by
  rcases h.cached e he with hfind | ⟨q, hq', hqhash, hqlag⟩
  · exact hfind
  · obtain rfl : q = (c, p) := List.inj_on_of_nodup_map h.distinct hq' hq (hqhash.trans hown)
    simp [hlag] at hqlag

/-- A call in the list after its step is the call that stepped or a call on another hash. -/
theorem mem_set (h : sys.Coherent M Mc) {i : Nat} {c : SharedCall} {p p' : Pending}
    (hi : sys.calls[i]? = some (c, p)) {q : SharedCall × Pending}
    (hq : q ∈ sys.calls.set i (c, p')) :
    q = (c, p') ∨ (q ∈ sys.calls ∧ q.1.hash ≠ c.hash) := by
  have hnodup : ((sys.calls.set i (c, p')).map fun q => q.1.hash).Nodup := by
    rw [Shared.map_set_of_getElem? _ (c, p') hi rfl]
    exact h.distinct
  have hself : (c, p') ∈ sys.calls.set i (c, p') :=
    List.mem_set (List.getElem?_eq_some_iff.1 hi).1 _
  by_cases hhash : q.1.hash = c.hash
  · exact .inl (List.inj_on_of_nodup_map hnodup hq hself hhash)
  · rcases List.mem_or_eq_of_mem_set hq with hq | rfl
    · exact .inr ⟨hq, hhash⟩
    · exact absurd rfl hhash

/-- **Frame.** A step of the call at position `i` keeps the invariant, for the map `Mc'` the
engine then holds, when it keeps it under the call's own hash and changes nothing under the
others. -/
theorem step_of (h : sys.Coherent M Mc) {i : Nat} {c : SharedCall} {p : Pending}
    (hi : sys.calls[i]? = some (c, p)) {st' : SetStore} {p' : Pending} {Mc' : SetCatalog}
    (hstep : p.step sys.store = (st', p'))
    (hopen : st'.engine.closed = false)
    (hstored : st'.engine.contents.entries = storedEntries Mc'.entries)
    (hlimit : 0 < st'.cache.limit)
    (hother : ∀ k ≠ c.hash, Mc'.find? k = Mc.find? k)
    (hprog : Progress M c p' (Mc'.find? c.hash))
    (hcacheOther : ∀ e ∈ st'.cache.sets, e.1 ≠ c.hash → e ∈ sys.store.cache.sets)
    (hcacheOwn : ∀ e ∈ st'.cache.sets, e.1 = c.hash →
      Mc'.find? e.1 = some e.2 ∨ p'.cacheLags = true) :
    (sys.step i).Coherent M Mc' := by
  have hmem : (c, p) ∈ sys.calls := List.mem_of_getElem? hi
  have hhashes : ((sys.calls.set i (c, p')).map fun q => q.1.hash) = sys.hashes :=
    Shared.map_set_of_getElem? _ (c, p') hi rfl
  rw [Shared.step_of_getElem? hi, hstep]
  refine ⟨?_, hopen, hstored, hlimit, ?_, ?_, ?_⟩
  · show ((sys.calls.set i (c, p')).map fun q => q.1.hash).Nodup
    rw [hhashes]
    exact h.distinct
  · intro q hq
    rcases h.mem_set hi hq with rfl | ⟨hq, hne⟩
    · exact hprog
    · rw [hother _ hne]
      exact h.progress q hq
  · intro k hk
    replace hk : k ∉ sys.hashes := by
      rw [← hhashes]
      exact hk
    have hne : k ≠ c.hash := fun heq => hk (heq ▸ List.mem_map_of_mem hmem)
    rw [hother k hne]
    exact h.untouched k hk
  · intro e he
    by_cases hown : e.1 = c.hash
    · rcases hcacheOwn e he hown with hfind | hlag
      · exact .inl hfind
      · have hself := List.mem_set (List.getElem?_eq_some_iff.1 hi).1 (c, p')
        exact .inr ⟨(c, p'), hself, hown.symm, hlag⟩
    · rcases h.cached e (hcacheOther e he hown) with hfind | ⟨q, hq, hqhash, hlag⟩
      · exact .inl ((hother _ hown).trans hfind)
      · have hne : q ≠ (c, p) := fun hqc => hown (hqhash ▸ hqc ▸ rfl)
        exact .inr ⟨q, Shared.mem_set_of_ne hi hq hne, hqhash, hlag⟩

/-- A step that commits to the engine under the call's hash, after which the call is behind in
the cache, keeps the invariant for the map the engine then holds. -/
theorem step_of_commit (h : sys.Coherent M Mc) {i : Nat} {c : SharedCall} {p : Pending}
    (hi : sys.calls[i]? = some (c, p)) {ws : List Write} {p' : Pending} {Mc' : SetCatalog}
    (hstep : p.step sys.store = ({ sys.store with
      engine := { sys.store.engine with contents := sys.store.engine.contents.applyAll ws } }, p'))
    (hstored : (sys.store.engine.contents.applyAll ws).entries = storedEntries Mc'.entries)
    (hother : ∀ k ≠ c.hash, Mc'.find? k = Mc.find? k) (hlag : p'.cacheLags = true)
    (hprog : Progress M c p' (Mc'.find? c.hash)) : (sys.step i).Coherent M Mc' :=
  h.step_of hi hstep h.engineOpen hstored h.limitPos hother hprog (fun _ he _ => he)
    (fun _ _ _ => .inr hlag)

/-- A step that only drops sets from the cache keeps the invariant, when the call was not behind
in the cache or the step leaves nothing under its hash. -/
theorem step_of_cache_sub (h : sys.Coherent M Mc) {i : Nat} {c : SharedCall} {p : Pending}
    (hi : sys.calls[i]? = some (c, p)) {cache : SetCache} {p' : Pending}
    (hstep : p.step sys.store = ({ sys.store with cache := cache }, p'))
    (hlimit : cache.limit = sys.store.cache.limit)
    (hsub : ∀ e ∈ cache.sets, e ∈ sys.store.cache.sets)
    (hown : p.cacheLags = false ∨ ∀ e ∈ cache.sets, e.1 ≠ c.hash)
    (hprog : Progress M c p' (Mc.find? c.hash)) : (sys.step i).Coherent M Mc := by
  refine h.step_of hi hstep h.engineOpen h.stored (hlimit ▸ h.limitPos) (fun _ _ => rfl) hprog
    (fun e he _ => hsub e he) fun e he hhash => ?_
  rcases hown with hlag | hnone
  · exact .inl (h.cached_own (List.mem_of_getElem? hi) hlag (hsub e he) hhash)
  · exact absurd hhash (hnone e he)

/-- A step that changes neither the engine nor the cache keeps the invariant, when the call was
not behind in the cache. -/
theorem step_of_read (h : sys.Coherent M Mc) {i : Nat} {c : SharedCall} {p : Pending}
    (hi : sys.calls[i]? = some (c, p)) {p' : Pending} (hstep : p.step sys.store = (sys.store, p'))
    (hlag : p.cacheLags = false) (hprog : Progress M c p' (Mc.find? c.hash)) :
    (sys.step i).Coherent M Mc :=
  h.step_of_cache_sub hi hstep rfl (fun _ he => he) (.inl hlag) hprog

/-- A step that caches the engine's set under the call's hash keeps the invariant. -/
theorem step_of_cache_add (h : sys.Coherent M Mc) {i : Nat} {c : SharedCall} {p : Pending}
    (hi : sys.calls[i]? = some (c, p)) {s : BranchSet} {p' : Pending}
    (hstep : p.step sys.store = ({ sys.store with cache := sys.store.cache.add c.hash s }, p'))
    (hs : Mc.find? c.hash = some s) (hprog : Progress M c p' (Mc.find? c.hash)) :
    (sys.step i).Coherent M Mc := by
  refine h.step_of hi hstep h.engineOpen h.stored (by simpa using h.limitPos) (fun _ _ => rfl)
    hprog (fun e he hne => ?_) fun e he hhash => .inl ?_
  · rcases SetCache.mem_add h.limitPos he with rfl | ⟨he, -⟩
    · exact absurd rfl hne
    · exact he
  · rcases SetCache.mem_add h.limitPos he with rfl | ⟨-, hne⟩
    · exact hs
    · exact absurd hhash hne

/-! ### One lemma per kind of step -/

/-- A store's commit puts the set into the map the engine holds, and the store is then behind
in the cache. -/
theorem step_commitPut (h : sys.Coherent M Mc) {i : Nat} {s : BranchSet}
    (hi : sys.calls[i]? = some (.putSet s, .commitPut s)) :
    (sys.step i).Coherent M (Mc.put s) := by
  have hstep : (Pending.commitPut s).step sys.store = ({ sys.store with engine :=
      { sys.store.engine with contents := (sys.store.engine.contents.applyAll
        [.put (setKey s.scriptHash) s.serialize]) } }, .cachePut s) := by
    simp [Pending.step, Engine.writeAll_of_open h.engineOpen]
  refine h.step_of_commit hi hstep (stored_put h.stored s) (fun k hk => Mc.find?_put_of_ne hk)
    rfl ?_
  simp only [SharedCall.hash, SetCatalog.find?_put_self]
  exact .cachePut s

/-- A store caches the set it committed, and returns. -/
theorem step_cachePut (h : sys.Coherent M Mc) {i : Nat} {s : BranchSet}
    (hi : sys.calls[i]? = some (.putSet s, .cachePut s)) (hs : Mc.find? s.scriptHash = some s) :
    (sys.step i).Coherent M Mc :=
  h.step_of_cache_add hi rfl hs
    (.returned_of rfl (by simpa [SharedCall.hash, SetCatalog.call] using hs.symm))

/-- A fetch's cache lookup answers the engine's set, which is still the map's, or moves the
fetch on to read the engine. -/
theorem step_lookupFetch (h : sys.Coherent M Mc) {i : Nat} {hash : Bytes}
    (hi : sys.calls[i]? = some (.fetchSet hash, .lookupFetch hash))
    (hv : Mc.find? hash = M.find? hash) : (sys.step i).Coherent M Mc := by
  have hsub : ∀ e ∈ (sys.store.cache.lookup hash).2.sets, e ∈ sys.store.cache.sets :=
    fun _ he => SetCache.mem_lookup he
  have hlimit := SetCache.limit_lookup sys.store.cache hash
  rcases hl : sys.store.cache.lookup hash with ⟨_ | s, cache⟩
  all_goals rw [hl] at hsub hlimit
  · -- a miss: the fetch reads the engine next
    have hstep : (Pending.lookupFetch hash).step sys.store =
        ({ sys.store with cache := cache }, .readFetch hash) := by
      simp [Pending.step, hl]
    exact h.step_of_cache_sub hi hstep hlimit hsub (.inl rfl) (hv ▸ .readFetch hash)
  · -- a hit: the cache keeps the engine's set, as no one else writes under this hash
    have hs : Mc.find? hash = some s :=
      h.cached_own (List.mem_of_getElem? hi) rfl (SetCache.mem_of_lookup_eq_some (by rw [hl])) rfl
    have hstep : (Pending.lookupFetch hash).step sys.store =
        ({ sys.store with cache := cache }, .returned (.set (.ok s))) := by
      simp [Pending.step, hl]
    refine h.step_of_cache_sub hi hstep hlimit hsub (.inl rfl) (.returned_of ?_ hv.symm)
    simp [SetCatalog.call, SetCatalog.fetch, ← hv, hs]

/-- A fetch's read answers that the map has no set, or moves the fetch on to cache the set. -/
theorem step_readFetch (h : sys.Coherent M Mc) {i : Nat} {hash : Bytes}
    (hi : sys.calls[i]? = some (.fetchSet hash, .readFetch hash))
    (hv : Mc.find? hash = M.find? hash) : (sys.step i).Coherent M Mc := by
  cases hf : Mc.find? hash with
  | none =>
    have hstep : (Pending.readFetch hash).step sys.store =
        (sys.store, .returned (.set (.error (.notFound hash)))) := by
      simp [Pending.step, read_stored h.engineOpen h.stored, hf]
    refine h.step_of_read hi hstep rfl (.returned_of ?_ ?_)
    · simp [SetCatalog.call, SetCatalog.fetch, ← hv, hf]
    · simp [SharedCall.hash, SetCatalog.call, hv]
  | some s =>
    -- the set read back is the engine's, and the fetch caches it next
    have hdecode : decodeStoredSet hash s.serialize = .ok s := decodeStoredSet_of_find? hf
    have hstep : (Pending.readFetch hash).step sys.store = (sys.store, .cacheFetch hash s) := by
      simp [Pending.step, read_stored h.engineOpen h.stored, hf, hdecode]
    refine h.step_of_read hi hstep rfl ?_
    simp only [SharedCall.hash, hf]
    exact .cacheFetch (hv.symm.trans hf)

/-- A fetch caches the set it read, which the engine still holds, and returns it. -/
theorem step_cacheFetch (h : sys.Coherent M Mc) {i : Nat} {hash : Bytes} {s : BranchSet}
    (hi : sys.calls[i]? = some (.fetchSet hash, .cacheFetch hash s))
    (hs : M.find? hash = some s) (hv : Mc.find? hash = some s) : (sys.step i).Coherent M Mc :=
  h.step_of_cache_add hi rfl hv (.returned_of
    (by simp [SetCatalog.call, SetCatalog.fetch, hs])
    (by simpa [SharedCall.hash, SetCatalog.call, hs] using hv.symm))

/-- A question answers true from the cache, which keeps the engine's set, or moves on to read
the engine. -/
theorem step_askHas (h : sys.Coherent M Mc) {i : Nat} {hash : Bytes}
    (hi : sys.calls[i]? = some (.hasSet hash, .askHas hash))
    (hv : Mc.find? hash = M.find? hash) : (sys.step i).Coherent M Mc := by
  by_cases hc : sys.store.cache.contains hash
  · obtain ⟨s, hs⟩ := SetCache.exists_of_contains hc
    have hfind : Mc.find? hash = some s := h.cached_own (List.mem_of_getElem? hi) rfl hs rfl
    have hstep : (Pending.askHas hash).step sys.store =
        (sys.store, .returned (.answer (.ok true))) := by
      simp [Pending.step, hc]
    refine h.step_of_read hi hstep rfl (.returned_of ?_ ?_)
    · simp [SetCatalog.call, SetCatalog.has, ← hv, hfind]
    · simp [SharedCall.hash, SetCatalog.call, hv]
  · have hstep : (Pending.askHas hash).step sys.store = (sys.store, .readHas hash) := by
      simp [Pending.step, hc]
    exact h.step_of_read hi hstep rfl (hv ▸ .readHas hash)

/-- A question's read answers whether the map has a set. -/
theorem step_readHas (h : sys.Coherent M Mc) {i : Nat} {hash : Bytes}
    (hi : sys.calls[i]? = some (.hasSet hash, .readHas hash))
    (hv : Mc.find? hash = M.find? hash) : (sys.step i).Coherent M Mc := by
  have hstep : (Pending.readHas hash).step sys.store =
      (sys.store, .returned (.answer (.ok (Mc.find? hash).isSome))) := by
    simp [Pending.step, read_stored h.engineOpen h.stored, Except.map, Except.mapError]
  refine h.step_of_read hi hstep rfl (.returned_of ?_ ?_)
  · simp [SetCatalog.call, SetCatalog.has, hv]
  · simp [SharedCall.hash, SetCatalog.call, hv]

/-- A delete finds the hash in the cache, which keeps the engine's set, and moves on to commit,
or moves on to read the engine. -/
theorem step_askDelete (h : sys.Coherent M Mc) {i : Nat} {hash : Bytes}
    (hi : sys.calls[i]? = some (.deleteSet hash, .askDelete hash))
    (hv : Mc.find? hash = M.find? hash) : (sys.step i).Coherent M Mc := by
  by_cases hc : sys.store.cache.contains hash
  · obtain ⟨s, hs⟩ := SetCache.exists_of_contains hc
    have hhas : M.has hash = true := by
      simp [SetCatalog.has, ← hv, h.cached_own (List.mem_of_getElem? hi) rfl hs rfl]
    have hstep : (Pending.askDelete hash).step sys.store = (sys.store, .commitDelete hash) := by
      simp [Pending.step, hc]
    exact h.step_of_read hi hstep rfl (hv ▸ .commitDelete hhas)
  · have hstep : (Pending.askDelete hash).step sys.store = (sys.store, .readDelete hash) := by
      simp [Pending.step, hc]
    exact h.step_of_read hi hstep rfl (hv ▸ .readDelete hash)

/-- A delete's read fails it when the map has no set, or moves it on to commit. -/
theorem step_readDelete (h : sys.Coherent M Mc) {i : Nat} {hash : Bytes}
    (hi : sys.calls[i]? = some (.deleteSet hash, .readDelete hash))
    (hv : Mc.find? hash = M.find? hash) : (sys.step i).Coherent M Mc := by
  cases hf : Mc.find? hash with
  | none =>
    have hstep : (Pending.readDelete hash).step sys.store =
        (sys.store, .returned (.done (.error (.notFound hash)))) := by
      simp [Pending.step, read_stored h.engineOpen h.stored, hf]
    refine h.step_of_read hi hstep rfl (.returned_of ?_ ?_)
    · simp [SetCatalog.call, SetCatalog.delete, SetCatalog.has, ← hv, hf]
    · simp [SharedCall.hash, SetCatalog.call, SetCatalog.delete, SetCatalog.has, ← hv, hf]
  | some s =>
    have hstep : (Pending.readDelete hash).step sys.store = (sys.store, .commitDelete hash) := by
      simp [Pending.step, read_stored h.engineOpen h.stored, hf]
    have hhas : M.has hash = true := by simp [SetCatalog.has, ← hv, hf]
    exact h.step_of_read hi hstep rfl (hv ▸ .commitDelete hhas)

/-- A delete's commit drops the set from the map the engine holds, and the delete is then behind
in the cache. -/
theorem step_commitDelete (h : sys.Coherent M Mc) {i : Nat} {hash : Bytes}
    (hi : sys.calls[i]? = some (.deleteSet hash, .commitDelete hash)) (hhas : M.has hash = true) :
    (sys.step i).Coherent M (Mc.erase hash) := by
  have hstep : (Pending.commitDelete hash).step sys.store = ({ sys.store with engine :=
      { sys.store.engine with contents := (sys.store.engine.contents.applyAll
        [.delete (setKey hash)]) } }, .clearDelete hash) := by
    simp [Pending.step, Engine.writeAll_of_open h.engineOpen]
  refine h.step_of_commit hi hstep (stored_erase h.stored hash)
    (fun k hk => Mc.find?_erase_of_ne hk) rfl ?_
  simp only [SharedCall.hash, SetCatalog.find?_erase_self]
  exact .clearDelete hhas

/-- A delete clears the hash from the cache, and returns. -/
theorem step_clearDelete (h : sys.Coherent M Mc) {i : Nat} {hash : Bytes}
    (hi : sys.calls[i]? = some (.deleteSet hash, .clearDelete hash)) (hhas : M.has hash = true)
    (hv : Mc.find? hash = none) : (sys.step i).Coherent M Mc := by
  refine h.step_of_cache_sub hi rfl rfl (fun e he => (SetCache.mem_delete he).1)
    (.inr fun e he => (SetCache.mem_delete he).2) (.returned_of ?_ ?_)
  · simp [SetCatalog.call, SetCatalog.delete, hhas]
  · simp [SharedCall.hash, SetCatalog.call, SetCatalog.delete, hhas, hv]

/-- **Step lemma.** Every step keeps the invariant, for the map the engine then holds. -/
theorem step (h : sys.Coherent M Mc) (i : Nat) : ∃ Mc', (sys.step i).Coherent M Mc' := by
  rcases hi : sys.calls[i]? with _ | ⟨c, p⟩
  · refine ⟨Mc, ?_⟩
    simp only [Shared.step, hi]
    exact h
  have hprog : Progress M c p (Mc.find? c.hash) := h.progress _ (List.mem_of_getElem? hi)
  -- the engine's set under the call's hash, as the call's progress describes it
  generalize hv : Mc.find? c.hash = v at hprog
  cases hprog with
  | commitPut s => exact ⟨_, h.step_commitPut hi⟩
  | cachePut s => exact ⟨_, h.step_cachePut hi hv⟩
  | lookupFetch hash => exact ⟨_, h.step_lookupFetch hi hv⟩
  | readFetch hash => exact ⟨_, h.step_readFetch hi hv⟩
  | cacheFetch hs => exact ⟨_, h.step_cacheFetch hi hs hv⟩
  | askHas hash => exact ⟨_, h.step_askHas hi hv⟩
  | readHas hash => exact ⟨_, h.step_readHas hi hv⟩
  | askDelete hash => exact ⟨_, h.step_askDelete hi hv⟩
  | readDelete hash => exact ⟨_, h.step_readDelete hi hv⟩
  | commitDelete hhas => exact ⟨_, h.step_commitDelete hi hhas⟩
  | clearDelete hhas => exact ⟨_, h.step_clearDelete hi hhas hv⟩
  | returned c => exact ⟨Mc, h.step_of_read hi rfl rfl (hv ▸ .returned c)⟩

/-- **Run lemma.** Every schedule keeps the invariant. -/
theorem run (h : sys.Coherent M Mc) (schedule : List Nat) :
    ∃ Mc', (sys.run schedule).Coherent M Mc' := by
  induction schedule generalizing sys Mc with
  | nil => exact ⟨Mc, h⟩
  | cons i is ih =>
    obtain ⟨Mc', h'⟩ := h.step i
    exact ih h'

/-- Once every call has returned, each answered what it answers on `M` alone and the engine
holds under its hash what `M` holds after it alone; the cache keeps only the engine's sets. -/
theorem all_returned (h : sys.Coherent M Mc) (hdone : ∀ q ∈ sys.calls, q.2.answer?.isSome) :
    (∀ q ∈ sys.calls, q.2.answer? = some (M.call q.1.alone).2 ∧
      Mc.find? q.1.hash = (M.call q.1.alone).1.find? q.1.hash) ∧
    ∀ e ∈ sys.store.cache.sets, Mc.find? e.1 = some e.2 := by
  -- a returned call's progress is the `returned` case, whatever schedule led there
  have hret : ∀ q ∈ sys.calls, ∃ a, q.2 = .returned a := by
    intro q hq
    have hsome := hdone q hq
    cases hp : q.2 with
    | returned a => exact ⟨a, rfl⟩
    | _ => simp [hp, Pending.answer?] at hsome
  refine ⟨fun q hq => ?_, fun e he => ?_⟩
  · obtain ⟨c, p⟩ := q
    obtain ⟨a, rfl⟩ := hret _ hq
    have hprog : Progress M c (.returned a) (Mc.find? c.hash) := h.progress _ hq
    generalize Mc.find? c.hash = v at hprog
    cases hprog
    exact ⟨rfl, rfl⟩
  · rcases h.cached e he with hfind | ⟨q, hq, -, hlag⟩
    · exact hfind
    · obtain ⟨a, ha⟩ := hret q hq
      simp [ha, Pending.cacheLags] at hlag

end Shared.Coherent

/-- **Calls on different hashes are linearizable.** Over a store that stands for a map, calls
on pairwise different hashes whose steps interleave by any schedule: once all have returned,
they answered what the map answers to the calls made one after another in the order listed,
and the store stands for the map after those calls. -/
theorem run_linearizes {st : SetStore} {M : SetCatalog} (hr : st.Refines M)
    {cs : List SharedCall} (hcs : (cs.map SharedCall.hash).Nodup) (schedule : List Nat)
    (hdone : ∀ q ∈ ((Shared.start st cs).run schedule).calls, q.2.answer?.isSome) :
    ((Shared.start st cs).run schedule).calls.map (·.2.answer?) =
        (M.answers (cs.map SharedCall.alone)).map some ∧
      ((Shared.start st cs).run schedule).store.Refines (M.after (cs.map SharedCall.alone)) := by
  obtain ⟨Mc, h⟩ := (Shared.Coherent.start hr hcs).run schedule
  obtain ⟨hcalls, hcache⟩ := h.all_returned hdone
  have hfst : ((Shared.start st cs).run schedule).calls.map Prod.fst = cs := by
    rw [Shared.fst_run]
    simp [Function.comp_def]
  -- the engine holds the map after the calls: under a call's hash what that call left, and
  -- elsewhere what the map held
  have hMc : Mc = M.after (cs.map SharedCall.alone) := by
    refine SetCatalog.ext_find? fun k => ?_
    by_cases hk : k ∈ cs.map SharedCall.hash
    · obtain ⟨c, hc, rfl⟩ := List.mem_map.1 hk
      rw [← hfst] at hc
      obtain ⟨q, hq, rfl⟩ := List.mem_map.1 hc
      rw [(hcalls q hq).2, SharedCall.find?_after_of_mem M hcs (hfst ▸ List.mem_map_of_mem hq)]
    · rw [SharedCall.find?_after_of_not_mem M hk]
      exact h.untouched k (by rwa [Shared.hashes_eq, hfst])
  subst hMc
  refine ⟨?_, h.engineOpen, h.stored, hcache, h.limitPos⟩
  have hanswers : ((Shared.start st cs).run schedule).calls.map (·.2.answer?) =
      (((Shared.start st cs).run schedule).calls.map Prod.fst).map
        fun c => some (M.call c.alone).2 := by
    rw [List.map_map]
    exact List.map_congr_left fun q hq => (hcalls q hq).1
  rw [hanswers, hfst, SharedCall.answers_of_nodup M hcs, List.map_map]
  rfl

/-- **Sharing a store.** Over a fresh store whose engine holds the stored forms of a map, calls
on pairwise different hashes, interleaved by any schedule, are linearizable in the order listed.
Calls on one hash are not: a fetch and a delete of a hash that has a set can interleave so that
both succeed, the engine drops the set and the cache keeps it, and the store goes on answering
the deleted set, which no order of the two calls does. -/
theorem shared_store_calls {e : Engine} {M : SetCatalog} (hopen : e.closed = false)
    (hstored : e.contents.entries = storedEntries M.entries) (cacheSize : Nat) :
    (∀ cs : List SharedCall, (cs.map SharedCall.hash).Nodup → ∀ schedule : List Nat,
      let sys := (Shared.start (SetStore.make e cacheSize) cs).run schedule
      (∀ q ∈ sys.calls, q.2.answer?.isSome) →
        sys.calls.map (·.2.answer?) = (M.answers (cs.map SharedCall.alone)).map some ∧
          sys.store.Refines (M.after (cs.map SharedCall.alone))) ∧
    ∀ hash s, M.find? hash = some s →
      let sys := (Shared.start (SetStore.make e cacheSize) [.fetchSet hash, .deleteSet hash]).run
        [0, 0, 1, 1, 1, 1, 0]
      (sys.calls.map (·.2) = [.returned (.set (.ok s)), .returned (.done (.ok ()))] ∧
        sys.store.engine.read (setKey hash) = .ok none ∧
        sys.store.hasSet hash = .ok true ∧ (sys.store.fetchSet hash).2 = .ok s) ∧
      M.answers ([.fetchSet hash, .deleteSet hash, .hasSet hash] : List (StoreCall Unit Unit)) ≠
          [.set (.ok s), .done (.ok ()), .answer (.ok true)] ∧
        M.answers ([.deleteSet hash, .fetchSet hash, .hasSet hash] : List (StoreCall Unit Unit)) ≠
          [.done (.ok ()), .set (.ok s), .answer (.ok true)] :=
  ⟨fun _ hcs schedule hdone =>
      run_linearizes (SetStore.Refines.make hopen hstored cacheSize) hcs schedule hdone,
    fun _ _ hs =>
      ⟨fetch_delete_race hopen hstored cacheSize hs, race_answers_not_sequential _ _ _⟩⟩

/-- The race over an engine holding the one-branch set of `OP_TRUE`, with a cache of one set. -/
theorem shared_store_calls_one_set :
    let s : BranchSet := ⟨[⟨⟨0⟩, [0x51]⟩], ⟨1, by decide⟩, [0x51], by decide⟩
    let M := SetCatalog.empty.put s
    let e : Engine := { Engine.empty .leveldb with contents := ⟨storedEntries M.entries⟩ }
    let sys := (Shared.start (SetStore.make e 1)
      [.fetchSet s.scriptHash, .deleteSet s.scriptHash]).run [0, 0, 1, 1, 1, 1, 0]
    e.closed = false ∧ M.find? s.scriptHash = some s ∧
      sys.store.hasSet s.scriptHash = .ok true ∧ (sys.store.fetchSet s.scriptHash).2 = .ok s := by
  intro s M e sys
  have hs : M.find? s.scriptHash = some s := SetCatalog.find?_put_self _ _
  obtain ⟨⟨-, -, hhas, hfetch⟩, -⟩ :=
    (shared_store_calls (rfl : e.closed = false) rfl 1).2 _ _ hs
  exact ⟨rfl, hs, hhas, hfetch⟩

end BranchLock
