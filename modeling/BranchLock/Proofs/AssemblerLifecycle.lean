import BranchLock.Proofs.AssemblerCalls

/-!
# The lifecycle of the inputs of an assembler

Start an assembler on a transaction and make any calls, with any arguments. Every state reached
keeps four promises (`assembler_lifecycle`):

* every input with a record exists in the transaction, and its record names a branch of its
  set, so the branch and its path can always be looked up;
* the transaction differs from the one the assembler started on only in the unlocking scripts
  of finalized inputs, and each of those is the unlocking script of the input's record;
* a finalized input is final: no call changes its record or its unlocking script, and a
  finalize after a finalize changes nothing at all;
* the signatures of a selecting input are exactly those that calls added to it since it was
  last chosen, in the order of the calls.

The first two are the invariant `Lifecycle`, which a new assembler has and every call keeps
(`Lifecycle.apply`); each operation keeps it by the shape of its one inversion lemma. The third
follows from the invariant and the inversion lemmas; the fourth from the effect of each call on
the records (`contributions_apply`), by induction over the run.
-/

namespace BranchLock

namespace Assembler

variable {registry : Registry} {tx0 : Transaction}

/-- What every assembler started on `tx0` keeps, whatever calls it took. -/
structure Lifecycle (registry : Registry) (tx0 : Transaction) (a : Assembler) : Prop where
  /-- One record per input. -/
  nodup : (a.signers.map (·.1)).Nodup
  /-- A record names an input of the transaction and a branch of its set. -/
  recorded : ∀ p ∈ a.signers, p.1 < tx0.inputs.length ∧ p.2.branch < p.2.set.numBranches
  /-- The version, the outputs, the lock time and the number of inputs never change. -/
  version : a.tx.version = tx0.version
  outputs : a.tx.outputs = tx0.outputs
  lockTime : a.tx.lockTime = tx0.lockTime
  length : a.tx.inputs.length = tx0.inputs.length
  /-- An input that is not finalized is as it was. -/
  unfinalized : ∀ k : Nat, (∀ s, a.signer? k = some s → s.finalized = false) →
    a.tx.inputs[k]? = tx0.inputs[k]?
  /-- A finalized input carries the unlocking script of its record. -/
  finalized : ∀ (k : Nat) s, a.signer? k = some s → s.finalized = true →
    ∃ script, s.unlockingScript registry = .ok script ∧
      a.tx.inputs[k]? = tx0.inputs[k]?.map ({ · with sigScript := script })

/-- A new assembler, with no input selected, meets the invariant. -/
theorem lifecycle_new (registry : Registry) (tx0 : Transaction) :
    Lifecycle registry tx0 ⟨tx0, []⟩ where
  nodup := by simp
  recorded := by simp
  version := rfl
  outputs := rfl
  lockTime := rfl
  length := rfl
  unfinalized _ _ := rfl
  finalized k s hs := by simp [signer?] at hs

namespace Lifecycle

variable {a : Assembler}

/-- A record of an input, in the map, is an entry of the list. -/
theorem mem_of_signer? (h : Lifecycle registry tx0 a) {k : Int} {s : Signer}
    (hs : a.signer? k = some s) : 0 ≤ k ∧ (k.toNat, s) ∈ a.signers := by
  by_cases hk : k < 0
  · rw [signer?_of_neg a hk] at hs
    cases hs
  · have hk' : k = (k.toNat : Nat) := by omega
    rw [hk'] at hs
    exact ⟨by omega, (signer?_eq_some_iff h.nodup _ _).1 hs⟩

/-- Writing a record that is not finalized, for an existing input that is not finalized, keeps
the invariant. -/
theorem setSigner (h : Lifecycle registry tx0 a) {k : Nat} {s : Signer}
    (hk : k < tx0.inputs.length) (hb : s.branch < s.set.numBranches) (hs : s.finalized = false)
    (hprev : ∀ s', a.signer? k = some s' → s'.finalized = false) :
    Lifecycle registry tx0 (a.setSigner k s) where
  nodup := nodup_setSigner a h.nodup k s
  recorded := by
    intro p hp
    rcases (mem_setSigner a).1 hp with hp | rfl
    · exact h.recorded p hp.1
    · exact ⟨hk, hb⟩
  version := h.version
  outputs := h.outputs
  lockTime := h.lockTime
  length := h.length
  unfinalized j hj := by
    by_cases hjk : j = k
    · subst hjk
      exact h.unfinalized j hprev
    · refine h.unfinalized j fun s' hs' => hj s' ?_
      rw [signer?_setSigner, if_neg (by omega)]
      exact hs'
  finalized j s' hs' hf := by
    rw [signer?_setSigner] at hs'
    by_cases hjk : (j : Int) = k
    · rw [if_pos hjk] at hs'
      cases hs'
      rw [hs] at hf
      cases hf
    · rw [if_neg hjk] at hs'
      exact h.finalized j s' hs' hf

/-- Attaching the unlocking script of a selecting input keeps the invariant. -/
theorem attach (h : Lifecycle registry tx0 a) {k : Nat} {s : Signer} {script : Bytes}
    (hs : a.signer? k = some s) (hf : s.finalized = false)
    (hu : s.unlockingScript registry = .ok script) :
    Lifecycle registry tx0 (a.attach k s script) where
  nodup := nodup_setSigner _ h.nodup k _
  recorded := by
    have hmem := (signer?_eq_some_iff h.nodup k s).1 hs
    intro p hp
    rcases (mem_setSigner _).1 hp with hp | rfl
    · exact h.recorded p hp.1
    · exact h.recorded (k, s) hmem
  version := by simp [tx_attach, h.version]
  outputs := by simp [tx_attach, h.outputs]
  lockTime := by simp [tx_attach, h.lockTime]
  length := by simp [tx_attach, h.length]
  unfinalized j hj := by
    have hjk : j ≠ k := by
      rintro rfl
      have := hj _ (by rw [signer?_attach, if_pos rfl])
      simp at this
    rw [tx_attach, Transaction.inputs_setSigScript, if_neg hjk]
    refine h.unfinalized j fun s' hs' => hj s' ?_
    rw [signer?_attach, if_neg (by omega)]
    exact hs'
  finalized j s' hs' hf' := by
    rw [signer?_attach] at hs'
    by_cases hjk : (j : Int) = k
    · rw [if_pos hjk] at hs'
      cases hs'
      have hjk' : j = k := by omega
      subst hjk'
      refine ⟨script, hu, ?_⟩
      rw [tx_attach, Transaction.inputs_setSigScript, if_pos rfl,
        h.unfinalized j fun s'' hs'' => by rw [hs] at hs''; cases hs''; exact hf]
    · rw [if_neg hjk] at hs'
      obtain ⟨script', hu', hin⟩ := h.finalized j s' hs' hf'
      refine ⟨script', hu', ?_⟩
      rw [tx_attach, Transaction.inputs_setSigScript, if_neg (by omega), hin]

/-- Attaching, one after the other, the scripts of distinct selecting inputs keeps the
invariant. -/
theorem attachAll (h : Lifecycle registry tx0 a) {L : List (Nat × Signer × Bytes)}
    (hL : (L.map (·.1)).Nodup)
    (hall : ∀ p ∈ L, a.signer? p.1 = some p.2.1 ∧ p.2.1.finalized = false ∧
      p.2.1.unlockingScript registry = .ok p.2.2) :
    Lifecycle registry tx0 (L.foldl (fun a (i, s, script) => a.attach i s script) a) := by
  induction L generalizing a with
  | nil => exact h
  | cons p L ih =>
    obtain ⟨i, s, script⟩ := p
    rw [List.map_cons, List.nodup_cons] at hL
    obtain ⟨hs, hf, hu⟩ := hall _ List.mem_cons_self
    refine ih (h.attach hs hf hu) hL.2 fun q hq => ?_
    obtain ⟨hq1, hq2, hq3⟩ := hall q (List.mem_cons_of_mem _ hq)
    -- the inputs after the first are other inputs, whose records the first attach keeps
    have hne : (q.1 : Int) ≠ i := fun he => hL.1 (List.mem_map.2 ⟨q, hq, by omega⟩)
    exact ⟨by rw [signer?_attach, if_neg hne]; exact hq1, hq2, hq3⟩

/-- A finalize keeps the invariant. -/
theorem finalize (h : Lifecycle registry tx0 a) {a' : Assembler}
    (hfin : a.finalize registry = .ok a') : Lifecycle registry tx0 a' := by
  obtain ⟨L, hkeys, hall, rfl⟩ := finalize_eq_ok h.nodup hfin
  exact h.attachAll (hkeys ▸ nodup_pending h.nodup) hall

/-- Every call keeps the invariant. -/
theorem apply (h : Lifecycle registry tx0 a) (c : Call) :
    Lifecycle registry tx0 (c.apply registry a) := by
  cases hc : c.exec registry a with
  | none =>
    rw [Call.apply_of_exec_none hc]
    exact h
  | some a' =>
    rw [Call.apply_of_exec_some hc]
    cases c with
    | selectBranch input set i n =>
      obtain ⟨hin, hi, s, rfl, rfl, hnf, rfl⟩ :=
        selectBranch_eq_ok_iff.1 (Call.toOption_eq_some.1 hc)
      have hk : ((input.toNat : Nat) : Int) = input := by omega
      refine h.setSigner (by have := h.length; omega) (by simp; omega) rfl fun s' hs' => ?_
      -- the input chosen again is not finalized
      rw [hk] at hs'
      cases hf : s'.finalized
      · rfl
      · exact absurd ((inputState_eq_finalized_iff a input).2 ⟨s', hs', hf⟩) hnf
    | contributeSignature input key combined hashType branchScript =>
      obtain ⟨s, hs, hf, -, -, sig, -, rfl⟩ :=
        contributeSignature_eq_ok_iff.1 (Call.toOption_eq_some.1 hc)
      obtain ⟨hk, hmem⟩ := h.mem_of_signer? hs
      have hk' : ((input.toNat : Nat) : Int) = input := by omega
      refine h.setSigner (h.recorded _ hmem).1 (h.recorded _ hmem).2 hf fun s' hs' => ?_
      rw [hk', hs] at hs'
      cases hs'
      exact hf
    | addSignature input key sig =>
      obtain ⟨s, hs, hf, rfl⟩ := addSignature_eq_ok_iff.1 (Call.toOption_eq_some.1 hc)
      obtain ⟨hk, hmem⟩ := h.mem_of_signer? hs
      have hk' : ((input.toNat : Nat) : Int) = input := by omega
      refine h.setSigner (h.recorded _ hmem).1 (h.recorded _ hmem).2 hf fun s' hs' => ?_
      rw [hk', hs] at hs'
      cases hs'
      exact hf
    | finalizeInput input =>
      obtain ⟨s, hs, hf, script, hu, rfl⟩ :=
        finalizeInput_eq_ok_iff.1 (Call.toOption_eq_some.1 hc)
      obtain ⟨hk, -⟩ := h.mem_of_signer? hs
      have hk' : ((input.toNat : Nat) : Int) = input := by omega
      exact h.attach (by rw [hk']; exact hs) hf hu
    | finalize => exact h.finalize (Call.toOption_eq_some.1 hc)
    | build =>
      rw [Call.exec_build] at hc
      exact h.finalize (Call.toOption_eq_some.1 hc)

/-! ### Finalized inputs are final -/

/-- A finalize keeps the record and the unlocking script of a finalized input. -/
theorem finalize_finalized (h : Lifecycle registry tx0 a) {a' : Assembler}
    (hfin : a.finalize registry = .ok a') {k : Nat} {s : Signer} (hs : a.signer? k = some s)
    (hf : s.finalized = true) :
    a'.signer? k = some s ∧ a'.tx.inputs[k]? = a.tx.inputs[k]? := by
  obtain ⟨L, -, hall, rfl⟩ := finalize_eq_ok h.nodup hfin
  -- the inputs a finalize attaches are selecting, so they are other inputs
  have hout : ∀ p ∈ L, p.1 ≠ k := by
    rintro p hp rfl
    have hsel := hall p hp
    rw [hs] at hsel
    cases hsel.1
    rw [hf] at hsel
    cases hsel.2.1
  exact ⟨(signer?_attachAll_of_not_mem L a fun p hp he => hout p hp (by omega)).trans hs,
    inputs_attachAll_of_not_mem L a hout⟩

/-- A call keeps the record and the unlocking script of a finalized input. -/
theorem apply_finalized (h : Lifecycle registry tx0 a) (c : Call) {k : Nat} {s : Signer}
    (hs : a.signer? k = some s) (hf : s.finalized = true) :
    (c.apply registry a).signer? k = some s ∧
      (c.apply registry a).tx.inputs[k]? = a.tx.inputs[k]? := by
  cases hc : c.exec registry a with
  | none => simp [Call.apply_of_exec_none hc, hs]
  | some a' =>
    rw [Call.apply_of_exec_some hc]
    -- an input the call changes is not finalized, so it is another input
    have hother : ∀ (input : Int) (s' : Signer), a.signer? input = some s' →
        s'.finalized = false → ¬((k : Int) = (input.toNat : Nat)) := by
      intro input s' hs' hf' heq
      have hk := (h.mem_of_signer? hs').1
      obtain rfl : input = k := by omega
      rw [hs] at hs'
      cases hs'
      rw [hf] at hf'
      cases hf'
    cases c with
    | selectBranch input set i n =>
      obtain ⟨hin, -, s', rfl, rfl, hnf, rfl⟩ :=
        selectBranch_eq_ok_iff.1 (Call.toOption_eq_some.1 hc)
      have hne : input ≠ k := by
        rintro rfl
        exact hnf ((inputState_eq_finalized_iff a _).2 ⟨s, hs, hf⟩)
      refine ⟨?_, rfl⟩
      rw [signer?_setSigner, if_neg (by omega)]
      exact hs
    | contributeSignature input key combined hashType branchScript =>
      obtain ⟨s', hs', hf', -, -, sig, -, rfl⟩ :=
        contributeSignature_eq_ok_iff.1 (Call.toOption_eq_some.1 hc)
      refine ⟨?_, rfl⟩
      rw [signer?_setSigner, if_neg (hother input s' hs' hf')]
      exact hs
    | addSignature input key sig =>
      obtain ⟨s', hs', hf', rfl⟩ := addSignature_eq_ok_iff.1 (Call.toOption_eq_some.1 hc)
      refine ⟨?_, rfl⟩
      rw [signer?_setSigner, if_neg (hother input s' hs' hf')]
      exact hs
    | finalizeInput input =>
      obtain ⟨s', hs', hf', script, -, rfl⟩ :=
        finalizeInput_eq_ok_iff.1 (Call.toOption_eq_some.1 hc)
      have hne := hother input s' hs' hf'
      refine ⟨?_, ?_⟩
      · rw [signer?_attach, if_neg hne]
        exact hs
      · rw [tx_attach, Transaction.inputs_setSigScript, if_neg (by omega)]
    | finalize => exact h.finalize_finalized (Call.toOption_eq_some.1 hc) hs hf
    | build =>
      rw [Call.exec_build] at hc
      exact h.finalize_finalized (Call.toOption_eq_some.1 hc) hs hf

/-- A run of calls keeps the invariant. -/
theorem runCalls (h : Lifecycle registry tx0 a) (cs : List Call) :
    Lifecycle registry tx0 (a.runCalls registry cs) := by
  induction cs generalizing a with
  | nil => exact h
  | cons c cs ih => exact ih (h.apply c)

/-- No run of calls changes the record or the unlocking script of a finalized input. -/
theorem runCalls_finalized (h : Lifecycle registry tx0 a) (cs : List Call) {k : Nat}
    {s : Signer} (hs : a.signer? k = some s) (hf : s.finalized = true) :
    (a.runCalls registry cs).signer? k = some s ∧
      (a.runCalls registry cs).tx.inputs[k]? = a.tx.inputs[k]? := by
  induction cs generalizing a with
  | nil => exact ⟨hs, rfl⟩
  | cons c cs ih =>
    obtain ⟨hs', hin⟩ := h.apply_finalized c hs hf
    obtain ⟨hs'', hin'⟩ := ih (h.apply c) hs'
    exact ⟨hs'', hin'.trans hin⟩

/-- After a finalize no input is selecting, so finalizing again, or building, changes
nothing. -/
theorem finalize_finalize (h : Lifecycle registry tx0 a) {a' : Assembler}
    (hfin : a.finalize registry = .ok a') :
    a'.finalize registry = .ok a' ∧ a'.build registry = .ok (a'.tx, a') := by
  have h' := h.finalize hfin
  obtain ⟨L, hkeys, hall, rfl⟩ := finalize_eq_ok h.nodup hfin
  have hnone : (L.foldl (fun a (i, s, script) => a.attach i s script) a).pending = [] := by
    refine List.eq_nil_iff_forall_not_mem.2 fun k hk => ?_
    obtain ⟨s, hs, hf⟩ := (mem_pending_iff h'.nodup k).1 hk
    by_cases hkL : k ∈ L.map (·.1)
    · -- a finalize finalized every input it attached
      obtain ⟨p, hp, rfl⟩ := List.mem_map.1 hkL
      rw [signer?_attachAll_of_mem (hkeys ▸ nodup_pending h.nodup) a hp] at hs
      cases hs
      simp at hf
    · -- any other input was finalized already, or it would have been pending
      have hout : ∀ p ∈ L, (p.1 : Int) ≠ k := fun p hp he =>
        hkL (List.mem_map.2 ⟨p, hp, by omega⟩)
      rw [signer?_attachAll_of_not_mem L a hout] at hs
      exact hkL (hkeys ▸ (mem_pending_iff h.nodup k).2 ⟨s, hs, hf⟩)
  have hagain : (L.foldl (fun a (i, s, script) => a.attach i s script) a).finalize registry =
      .ok (L.foldl (fun a (i, s, script) => a.attach i s script) a) :=
    finalize_eq_ok_iff.2 ⟨[], by rw [hnone]; rfl, rfl⟩
  exact ⟨hagain, by simp [Assembler.build, hagain, Except.map]⟩

end Lifecycle

/-! ### The signatures of a selecting input -/

namespace Call

/-- The signature a call adds to its input when it succeeds: the signer's key with the
signature made over the combined script (hash type 0 meaning all), or the key and the signature
given. Other calls add none. -/
def addition (a : Assembler) : Call → Option (Int × Contribution)
  | contributeSignature input key combined hashType _ =>
    match a.tx.signInput input.toNat combined (if hashType = 0 then SigHash.all else hashType)
        key with
    | .ok sig => some (input, ⟨key.publicKey, some sig⟩)
    | .error _ => none
  | addSignature input key sig => some (input, ⟨key, sig⟩)
  | _ => none

/-- Whether a call chooses a branch for input `k`. -/
def selects (k : Int) : Call → Bool
  | selectBranch input _ _ _ => input == k
  | _ => false

end Call

/-- The signatures that the calls of a run which succeed add to input `k` since the last one
that chose a branch for it, in call order; `acc` holds those added before the run. -/
def signaturesSince (registry : Registry) (k : Int) :
    Assembler → List Call → List Contribution → List Contribution
  | _, [], acc => acc
  | a, c :: cs, acc =>
    match c.exec registry a with
    | none => signaturesSince registry k a cs acc
    | some a' =>
      signaturesSince registry k a' cs
        (if c.selects k then [] else
          acc ++ ((c.addition a).filter (fun p => p.1 == k)).toList.map (·.2))

namespace Lifecycle

variable {a : Assembler}

/-- A finalize leaves every input either finalized or with the record it had. -/
theorem finalize_signer? (h : Lifecycle registry tx0 a) {a' : Assembler}
    (hfin : a.finalize registry = .ok a') (k : Int) :
    (∃ s, a'.signer? k = some s ∧ s.finalized = true) ∨ a'.signer? k = a.signer? k := by
  obtain ⟨L, hkeys, -, rfl⟩ := finalize_eq_ok h.nodup hfin
  by_cases hkL : ∃ p ∈ L, (p.1 : Int) = k
  · obtain ⟨p, hp, rfl⟩ := hkL
    exact .inl ⟨_, signer?_attachAll_of_mem (hkeys ▸ nodup_pending h.nodup) a hp, rfl⟩
  · exact .inr (signer?_attachAll_of_not_mem L a fun p hp he => hkL ⟨p, hp, he⟩)

/-- After a finalize, an input that is not finalized has the record it had before. -/
theorem signer?_of_finalize (h : Lifecycle registry tx0 a) {a' : Assembler}
    (hfin : a.finalize registry = .ok a') {k : Int} {s : Signer} (hs : a'.signer? k = some s)
    (hf : s.finalized = false) : a.signer? k = some s := by
  rcases h.finalize_signer? hfin k with ⟨s', hs', hf'⟩ | hsame
  · -- the finalize attached its script, which its record says it did not
    rw [hs] at hs'
    cases hs'
    rw [hf] at hf'
    cases hf'
  · rw [← hsame]
    exact hs

/-- The signatures of input `k`, while it is selecting, are the ones `signaturesSince` reads
off the calls: a call that succeeds resets them when it chooses a branch for `k`, appends its
addition when that is for `k`, and leaves them otherwise. -/
theorem contributions_apply (h : Lifecycle registry tx0 a) (k : Int) {acc : List Contribution}
    (hacc : ∀ s, a.signer? k = some s → s.finalized = false → s.contributions = acc)
    {c : Call} {a' : Assembler} (hc : c.exec registry a = some a') :
    ∀ s, a'.signer? k = some s → s.finalized = false →
      s.contributions = if c.selects k then [] else
        acc ++ ((c.addition a).filter (fun p => p.1 == k)).toList.map (·.2) := by
  intro s hs hf
  cases c with
  | selectBranch input set i n =>
    obtain ⟨hin, -, s', rfl, rfl, -, rfl⟩ :=
      selectBranch_eq_ok_iff.1 (Call.toOption_eq_some.1 hc)
    rw [signer?_setSigner] at hs
    by_cases hk : input = k
    · subst hk
      rw [if_pos (by omega)] at hs
      cases hs
      simp [Call.selects]
    · rw [if_neg (by omega)] at hs
      simp [Call.selects, Call.addition, hk, hacc s hs hf]
  | contributeSignature input key combined hashType branchScript =>
    obtain ⟨s', hs', hf', -, -, sig, hsig, rfl⟩ :=
      contributeSignature_eq_ok_iff.1 (Call.toOption_eq_some.1 hc)
    have hk0 := (h.mem_of_signer? hs').1
    rw [signer?_setSigner] at hs
    by_cases hk : input = k
    · subst hk
      rw [if_pos (by omega)] at hs
      cases hs
      simp [Call.selects, Call.addition, hsig, hacc s' hs' hf', Option.filter]
    · rw [if_neg (by omega)] at hs
      simp [Call.selects, Call.addition, hsig, hk, hacc s hs hf]
  | addSignature input key sig =>
    obtain ⟨s', hs', hf', rfl⟩ := addSignature_eq_ok_iff.1 (Call.toOption_eq_some.1 hc)
    have hk0 := (h.mem_of_signer? hs').1
    rw [signer?_setSigner] at hs
    by_cases hk : input = k
    · subst hk
      rw [if_pos (by omega)] at hs
      cases hs
      simp [Call.selects, Call.addition, hacc s' hs' hf', Option.filter]
    · rw [if_neg (by omega)] at hs
      simp [Call.selects, Call.addition, hk, hacc s hs hf]
  | finalizeInput input =>
    obtain ⟨s', hs', hf', script, -, rfl⟩ :=
      finalizeInput_eq_ok_iff.1 (Call.toOption_eq_some.1 hc)
    have hk0 := (h.mem_of_signer? hs').1
    rw [signer?_attach] at hs
    by_cases hk : input = k
    · -- the input is finalized now
      subst hk
      rw [if_pos (by omega)] at hs
      cases hs
      simp at hf
    · rw [if_neg (by omega)] at hs
      simp [Call.selects, Call.addition, hacc s hs hf]
  | finalize =>
    have hs0 := h.signer?_of_finalize (Call.toOption_eq_some.1 hc) hs hf
    simp [Call.selects, Call.addition, hacc s hs0 hf]
  | build =>
    rw [Call.exec_build] at hc
    have hs0 := h.signer?_of_finalize (Call.toOption_eq_some.1 hc) hs hf
    simp [Call.selects, Call.addition, hacc s hs0 hf]

/-- Over a whole run, the signatures of a selecting input are those `signaturesSince` reads off
the calls. -/
theorem contributions_runCalls (h : Lifecycle registry tx0 a) (k : Int) (cs : List Call)
    {acc : List Contribution}
    (hacc : ∀ s, a.signer? k = some s → s.finalized = false → s.contributions = acc) :
    ∀ s, (a.runCalls registry cs).signer? k = some s → s.finalized = false →
      s.contributions = signaturesSince registry k a cs acc := by
  induction cs generalizing a acc with
  | nil => exact hacc
  | cons c cs ih =>
    cases hc : c.exec registry a with
    | none =>
      rw [runCalls_cons, Call.apply_of_exec_none hc, signaturesSince, hc]
      exact ih h hacc
    | some a' =>
      have h' : Lifecycle registry tx0 a' := Call.apply_of_exec_some hc ▸ h.apply c
      rw [runCalls_cons, Call.apply_of_exec_some hc, signaturesSince, hc]
      exact ih h' (h.contributions_apply k hacc hc)

/-- An input that is not finalized has no finalized record. -/
theorem not_finalized_signer? {a : Assembler} {k : Int} (hk : a.inputState k ≠ .finalized)
    (s : Signer) (hs : a.signer? k = some s) : s.finalized = false := by
  cases hf : s.finalized
  · rfl
  · exact absurd ((inputState_eq_finalized_iff a k).2 ⟨s, hs, hf⟩) hk

end Lifecycle

/-- Every state that calls reach from a new assembler on `tx0`:
* has records only for inputs of `tx0`, each naming a branch of its set whose path exists;
* has the transaction of `tx0` except for the unlocking scripts of finalized inputs, each the
  unlocking script of the input's record;
* keeps the record and the unlocking script of each finalized input through any further calls,
  and a finalize after a finalize, or a build after it, changes nothing;
* has, for each selecting input, the signatures added to it since a branch was last chosen for
  it. -/
theorem assembler_lifecycle (registry : Registry) (tx0 : Transaction) (calls : List Call) :
    let a := (⟨tx0, []⟩ : Assembler).runCalls registry calls
    (∀ (k : Int) (s : Signer), a.signer? k = some s →
      (0 ≤ k ∧ k < tx0.inputs.length) ∧ s.branch < s.set.branches.length ∧
        s.set.pathFor s.branch = .ok (s.set.shape.nesting.path s.branch)) ∧
    (a.tx.version = tx0.version ∧ a.tx.outputs = tx0.outputs ∧ a.tx.lockTime = tx0.lockTime ∧
      a.tx.inputs.length = tx0.inputs.length ∧
      (∀ k : Nat, a.inputState k ≠ .finalized → a.tx.inputs[k]? = tx0.inputs[k]?) ∧
      ∀ (k : Nat) (s : Signer), a.signer? k = some s → s.finalized = true →
        ∃ script, s.unlockingScript registry = .ok script ∧
          a.tx.inputs[k]? = tx0.inputs[k]?.map ({ · with sigScript := script })) ∧
    (∀ (more : List Call) (k : Nat) (s : Signer), a.signer? k = some s → s.finalized = true →
      (a.runCalls registry more).signer? k = some s ∧
        (a.runCalls registry more).tx.inputs[k]? = a.tx.inputs[k]?) ∧
    (∀ a' : Assembler, a.finalize registry = .ok a' →
      a'.finalize registry = .ok a' ∧ a'.build registry = .ok (a'.tx, a')) ∧
    ∀ (k : Int) (s : Signer), a.signer? k = some s → s.finalized = false →
      s.contributions = signaturesSince registry k ⟨tx0, []⟩ calls [] := by
  intro a
  have h : Lifecycle registry tx0 a := (lifecycle_new registry tx0).runCalls calls
  refine ⟨?records, ⟨h.version, h.outputs, h.lockTime, h.length, ?unfinalized, h.finalized⟩,
    fun more k s hs hf => h.runCalls_finalized more hs hf,
    fun a' hfin => h.finalize_finalize hfin, ?contributions⟩
  case records =>
    intro k s hs
    obtain ⟨hk, hmem⟩ := h.mem_of_signer? hs
    obtain ⟨hlen, hb⟩ := h.recorded _ hmem
    exact ⟨⟨hk, by omega⟩, hb, s.set.pathFor_eq_ok ⟨by omega, by exact_mod_cast hb⟩⟩
  case unfinalized =>
    intro k hk
    exact h.unfinalized k (Lifecycle.not_finalized_signer? hk)
  case contributions =>
    intro k
    -- a new assembler has no records, so every signature list starts empty
    refine (lifecycle_new registry tx0).contributions_runCalls k calls fun s hs _ => ?_
    simp [signer?] at hs

end Assembler

end BranchLock
