import Mathlib
import BranchLock.Spend.Unlock

/-!
# The unlocking data of a multisig branch

A multisig branch is unlocked by a dummy item and then signatures in the order of the keys in
the script. The script's pushes are read in order, and each one that reads as a key stands for
that key at its position; pushes that are no key still take up a position. Each contribution is
recorded at the first position holding its key, and a later contribution for the same key
replaces an earlier one, an absent signature included.

* `Unlocker.multiSig_unlockData_eq`: the unlock fails exactly when the script does not read, or
  some contribution's key is none of the script's keys (the first such signer is named);
  otherwise it is the dummy item, then, for each position in ascending order that holds a key
  for the first time, the signature of the last contribution made with that key, if it has one
  (`keyOrderSignatures`). The proof runs over the contributions with the record of every
  position (`Unlocker.settled`), one contribution per step (`settled_cons`).
* `Unlocker.multiSig_key_order`: so the order in which signers with pairwise different keys
  contribute does not matter (`lastSignature_perm`).
-/

namespace BranchLock

/-! ## First positions and last contributions -/

/-- A value is found first at position `j` exactly when it stands there and not before. -/
theorem findIdx?_eq_some_iff_first {α : Type} [DecidableEq α] {l : List α} {a : α}
    {j : Nat} : l.findIdx? (· = a) = some j ↔ l[j]? = some a ∧ a ∉ l.take j := by
  rw [List.findIdx?_eq_some_iff_getElem, List.mem_take_iff_getElem]
  constructor
  · rintro ⟨hj, hat, hbefore⟩
    refine ⟨by simpa [List.getElem?_eq_getElem hj] using hat, ?_⟩
    rintro ⟨i, hi, hia⟩
    exact hbefore i (by omega) (by simpa using hia)
  · rintro ⟨hat, hnot⟩
    obtain ⟨hj, hja⟩ := List.getElem?_eq_some_iff.1 hat
    refine ⟨hj, by simpa using hja, fun i hi hia => hnot ⟨i, by omega, by simpa using hia⟩⟩

/-- In a list whose keys are pairwise different, the element found for a key is the one element
with that key. -/
theorem find?_key_eq_some_iff {α κ : Type} [DecidableEq κ] (key : α → κ) {l : List α}
    (hn : (l.map key).Nodup) (k : κ) (r : α) :
    l.find? (fun x => key x = k) = some r ↔ r ∈ l ∧ key r = k := by
  constructor
  · intro h
    exact ⟨List.mem_of_find?_eq_some h, by simpa using List.find?_some h⟩
  · rintro ⟨hr, rfl⟩
    cases h : l.find? (fun x => key x = key r) with
    | none => exact absurd (List.find?_eq_none.1 h r hr) (by simp)
    | some r' =>
      have hm := List.mem_of_find?_eq_some h
      have hk : key r' = key r := by simpa using List.find?_some h
      rw [List.inj_on_of_nodup_map hn hm hr hk]

/-- Two orders of a list whose keys are pairwise different find the same element for a key. -/
theorem find?_key_perm {α κ : Type} [DecidableEq κ] (key : α → κ) {l l' : List α}
    (hp : l'.Perm l) (hn : (l.map key).Nodup) (k : κ) :
    l'.find? (fun x => key x = k) = l.find? (fun x => key x = k) := by
  have hn' : (l'.map key).Nodup := ((hp.map key).nodup_iff).2 hn
  cases h : l.find? (fun x => key x = k) with
  | some r =>
    obtain ⟨hr, hk⟩ := (find?_key_eq_some_iff key hn k r).1 h
    exact (find?_key_eq_some_iff key hn' k r).2 ⟨hp.symm.subset hr, hk⟩
  | none =>
    cases h' : l'.find? (fun x => key x = k) with
    | none => rfl
    | some r =>
      obtain ⟨hr, hk⟩ := (find?_key_eq_some_iff key hn' k r).1 h'
      rw [(find?_key_eq_some_iff key hn k r).2 ⟨hp.subset hr, hk⟩] at h
      cases h

/-- The signature of the last contribution made with a key, when it has one. -/
def lastSignature (cs : List Contribution) (key : PublicKey) : Option Bytes :=
  (cs.reverse.find? (·.pubKey = key)).bind (·.signature)

/-- Signers with pairwise different keys leave, for every key, the same last signature in every
order. -/
theorem lastSignature_perm {cs cs' : List Contribution} (hp : cs'.Perm cs)
    (hn : (cs.map (·.pubKey)).Nodup) (key : PublicKey) :
    lastSignature cs' key = lastSignature cs key := by
  have hrev : cs'.reverse.Perm cs.reverse :=
    (List.reverse_perm cs').trans (hp.trans (List.reverse_perm cs).symm)
  have hnrev : (cs.reverse.map (·.pubKey)).Nodup := by
    rw [List.map_reverse, List.nodup_reverse]
    exact hn
  unfold lastSignature
  rw [find?_key_perm (·.pubKey) hrev hnrev key]

/-- The signature a multisig unlock takes for position `j` of the script's pushes: when the push
there reads as a key that no earlier push holds, the last signature contributed with that key. -/
def signatureAt (keys : List (Option PublicKey)) (cs : List Contribution) (j : Nat) :
    Option Bytes :=
  match keys[j]? with
  | some (some key) => if some key ∈ keys.take j then none else lastSignature cs key
  | _ => none

/-- The signatures a multisig unlock pushes after its dummy item, by ascending position. -/
def keyOrderSignatures (keys : List (Option PublicKey)) (cs : List Contribution) : List Bytes :=
  (List.range keys.length).filterMap (signatureAt keys cs)

/-! ## Recording the contributions -/

namespace Unlocker

/-- The record of every position after the contributions, starting from `sigs`: the signature
of the last contribution whose key is first found at that position, or what was there. -/
def settled (keys : List (Option PublicKey)) (sigs : List (Option Bytes))
    (cs : List Contribution) : List (Option Bytes) :=
  sigs.mapIdx fun j s =>
    match cs.reverse.find? (fun c => keys.findIdx? (· = some c.pubKey) = some j) with
    | some c => c.signature
    | none => s

/-- With no contributions every position keeps what it had. -/
theorem settled_nil (keys : List (Option PublicKey)) (sigs : List (Option Bytes)) :
    settled keys sigs [] = sigs := by
  apply List.ext_getElem (by simp [settled])
  intro j h₁ h₂
  simp [settled]

/-- The first contribution is recorded at the first position of its key, and the later ones
are recorded over it. -/
theorem settled_cons {keys : List (Option PublicKey)} {sigs : List (Option Bytes)}
    {c : Contribution} {k : Nat} (hk : keys.findIdx? (· = some c.pubKey) = some k)
    (cs : List Contribution) :
    settled keys sigs (c :: cs) = settled keys (sigs.set k c.signature) cs := by
  apply List.ext_getElem (by simp [settled])
  intro j h₁ h₂
  simp only [settled, List.getElem_mapIdx, List.reverse_cons, List.find?_append,
    List.getElem_set]
  -- a later contribution for position `j` wins; otherwise `c` is there exactly when `j = k`
  cases hf : cs.reverse.find? (fun c => keys.findIdx? (· = some c.pubKey) = some j) with
  | some c' => rfl
  | none =>
    by_cases hj : k = j
    · subst hj
      simp [hk]
    · have hne : ¬ (some k = some j) := by simpa using hj
      simp [hk, hne, hj]

/-- Recording contributions fails at the first signer whose key is none of the script's keys,
and otherwise gives the record of every position. -/
theorem placeSignatures_eq {keys : List (Option PublicKey)} (cs : List Contribution) :
    ∀ {sigs : List (Option Bytes)}, sigs.length = keys.length →
      placeSignatures keys sigs cs =
        match cs.find? (fun c => some c.pubKey ∉ keys) with
        | some c => .error (.branch (.unknownSigner c.pubKey.compressed))
        | none => .ok (settled keys sigs cs) := by
  induction cs with
  | nil => intro sigs _; simp [placeSignatures, settled_nil]
  | cons c cs ih =>
    intro sigs hlen
    cases hk : keys.findIdx? (· = some c.pubKey) with
    | none =>
      -- `c` is the first stranger
      have hnot : some c.pubKey ∉ keys := fun hmem => by
        have := List.findIdx?_eq_none_iff.1 hk _ hmem
        simp at this
      simp [placeSignatures, hk, hnot]
    | some k =>
      have hmem : some c.pubKey ∈ keys := by
        obtain ⟨hj, -⟩ := findIdx?_eq_some_iff_first.1 hk
        exact List.mem_of_getElem? hj
      simp only [placeSignatures, hk]
      rw [@ih (sigs.set k c.signature) (by rw [List.length_set, hlen]), ← settled_cons hk]
      simp [hmem]

/-- Starting from no signatures, the record at each position is the signature the unlock takes
there. -/
theorem settled_none (keys : List (Option PublicKey)) (cs : List Contribution) :
    settled keys (keys.map fun _ => none) cs = (List.range keys.length).map (signatureAt keys cs) := by
  apply List.ext_getElem (by simp [settled])
  intro j h₁ h₂
  have hj : j < keys.length := by simpa [settled] using h₁
  simp only [settled, List.getElem_mapIdx, List.getElem_map, List.getElem_range]
  -- the contributions recorded at `j` are those made with the key first found there
  have hfirst : ∀ c : Contribution, keys.findIdx? (· = some c.pubKey) = some j ↔
      keys[j]? = some (some c.pubKey) ∧ some c.pubKey ∉ keys.take j :=
    fun c => findIdx?_eq_some_iff_first
  -- no contribution is recorded at a position that holds no key first
  have hnone : (∀ key, keys[j]? = some (some key) → some key ∈ keys.take j) →
      cs.reverse.find? (fun c => keys.findIdx? (· = some c.pubKey) = some j) = none := by
    intro hno
    rw [List.find?_eq_none]
    intro c _ hc
    obtain ⟨hat, hnot⟩ := (hfirst c).1 (by simpa using hc)
    exact hnot (hno c.pubKey hat)
  unfold signatureAt
  cases hkey : keys[j]? with
  | none => simp [hnone (fun key h => by rw [hkey] at h; cases h)]
  | some o =>
    cases o with
    | none => simp [hnone (fun key h => by rw [hkey] at h; cases h)]
    | some key =>
      by_cases hbefore : some key ∈ keys.take j
      · -- the key was found earlier, so nothing is recorded here
        have hno : ∀ key', keys[j]? = some (some key') → some key' ∈ keys.take j := by
          intro key' h
          rw [hkey] at h
          cases h
          exact hbefore
        simp [hnone hno, hbefore]
      · -- the contributions recorded here are exactly those made with the key
        have hsame : (fun c : Contribution =>
            decide (keys.findIdx? (· = some c.pubKey) = some j)) =
            (fun c => decide (c.pubKey = key)) := by
          funext c
          rw [decide_eq_decide, hfirst c, hkey]
          constructor
          · rintro ⟨hat, -⟩
            cases hat
            rfl
          · rintro rfl
            exact ⟨rfl, hbefore⟩
        simp only [hbefore, if_false, lastSignature, hsame]
        cases cs.reverse.find? (fun c => decide (c.pubKey = key)) <;> rfl

/-- **The unlocking data of a multisig branch.** The unlock fails exactly when the script does
not read, or when some contribution's key is none of the keys its pushes read as; the first such
signer is named. Otherwise it is the dummy item, then the signatures in key order. -/
theorem multiSig_unlockData_eq (script : Bytes) (cs : List Contribution) :
    multiSig.unlockData script cs =
      match Script.pushedData script with
      | .error e => .error (.unparsable e)
      | .ok pushes =>
        match cs.find? (fun c => some c.pubKey ∉ pushes.map fun p => (PublicKey.parse p).toOption)
        with
        | some c => .error (.branch (.unknownSigner c.pubKey.compressed))
        | none =>
          .ok ([] :: keyOrderSignatures (pushes.map fun p => (PublicKey.parse p).toOption) cs) := by
  cases hp : Script.pushedData script with
  | error e => simp [multiSig, hp, bind, Except.bind]
  | ok pushes =>
    have hplace := @placeSignatures_eq (pushes.map fun p => (PublicKey.parse p).toOption) cs
      ((pushes.map fun p => (PublicKey.parse p).toOption).map fun _ => none)
      (by rw [List.length_map])
    simp only [multiSig, hp, Except.mapError_ok, bind, Except.bind, hplace]
    cases cs.find? (fun c => some c.pubKey ∉ pushes.map fun p => (PublicKey.parse p).toOption) with
    | some c => rfl
    | none =>
      simp only [pure, Except.pure, settled_none, keyOrderSignatures, List.filterMap_map]
      rfl

/-- **Multisig unlocking data.** The unlock of a multisig branch fails exactly when the script
does not read, or some contribution's key is none of the keys the script's pushes read as (the
first such signer is named); otherwise it is the dummy item followed, for each position of the
pushes in ascending order that holds a key for the first time, by the signature of the last
contribution made with that key, when it has one. Hence signers with pairwise different keys
get the same result in every order. -/
theorem multiSig_key_order (script : Bytes) (cs : List Contribution) :
    (multiSig.unlockData script cs =
      match Script.pushedData script with
      | .error e => .error (.unparsable e)
      | .ok pushes =>
        match cs.find? (fun c => some c.pubKey ∉ pushes.map fun p => (PublicKey.parse p).toOption)
        with
        | some c => .error (.branch (.unknownSigner c.pubKey.compressed))
        | none =>
          .ok ([] :: keyOrderSignatures (pushes.map fun p => (PublicKey.parse p).toOption) cs)) ∧
    ∀ cs', cs'.Perm cs → (cs.map (·.pubKey)).Nodup →
      (multiSig.unlockData script cs').toOption = (multiSig.unlockData script cs).toOption := by
  refine ⟨multiSig_unlockData_eq script cs, fun cs' hp hn => ?_⟩
  rw [multiSig_unlockData_eq, multiSig_unlockData_eq]
  cases Script.pushedData script with
  | error e => rfl
  | ok pushes =>
    dsimp only
    generalize pushes.map (fun p => (PublicKey.parse p).toOption) = keys
    -- a stranger among the signers is a stranger in every order
    have hsome : (cs'.find? fun c => some c.pubKey ∉ keys).isSome =
        (cs.find? fun c => some c.pubKey ∉ keys).isSome := by
      rw [Bool.eq_iff_iff, List.find?_isSome, List.find?_isSome]
      exact ⟨fun ⟨x, hx, hpx⟩ => ⟨x, hp.subset hx, hpx⟩,
        fun ⟨x, hx, hpx⟩ => ⟨x, hp.symm.subset hx, hpx⟩⟩
    have horder : keyOrderSignatures keys cs' = keyOrderSignatures keys cs := by
      unfold keyOrderSignatures signatureAt
      simp only [lastSignature_perm hp hn]
    cases h : cs.find? (fun c => some c.pubKey ∉ keys) with
    | some c =>
      obtain ⟨c', h'⟩ := Option.isSome_iff_exists.1 (show
        (cs'.find? fun c => some c.pubKey ∉ keys).isSome = true by rw [hsome, h]; rfl)
      rw [h']
      rfl
    | none =>
      have h' : (cs'.find? fun c => some c.pubKey ∉ keys) = none :=
        Option.not_isSome_iff_eq_none.1 (by rw [hsome, h]; simp)
      rw [h', horder]

end Unlocker

end BranchLock
