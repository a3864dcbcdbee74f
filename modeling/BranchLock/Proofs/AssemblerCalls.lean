import BranchLock.Spend.Assembler

/-!
# What each call of an assembler does

An assembler keeps one record per input a branch was chosen for, and the transaction. This
module says, once for each operation, exactly when it succeeds and what it then changes, so
that the lifecycle and error statements about whole runs of calls never unfold an operation
again.

* The records read as a map from input index to record (`Assembler.signer?`): writing a record
  replaces the one of its input and leaves every other input's (`signer?_setSigner`), and
  attaching an unlocking script changes that input of the transaction alone
  (`inputs_setSigScript`).
* One inversion lemma per operation: `selectBranch_eq_ok_iff`, `selecting_eq_ok_iff`,
  `contributeSignature_eq_ok_iff`, `addSignature_eq_ok_iff`, `finalizeInput_eq_ok_iff`, and for
  `finalize` the scripts of the pending inputs (`unlockingScripts_eq_ok`,
  `unlockingScripts_eq_error`) and the effect of attaching them all (`signer?_attachAll_of_mem`,
  `inputs_attachAll_of_mem` and their frames `_of_not_mem`).
* A call of any of the six operations (`Assembler.Call`), and a run of calls from a new
  assembler (`Assembler.runCalls`), in which a call that fails leaves the assembler as it was.
-/

namespace BranchLock

namespace Assembler

/-! ## The records as a map -/

section records

variable (a : Assembler)

/-- A negative input index has no record. -/
theorem signer?_of_neg {input : Int} (h : input < 0) : a.signer? input = none := by
  simp [signer?, h]

/-- The record of an input is the first one kept under its index. -/
theorem signer?_ofNat (k : Nat) : a.signer? k = (a.signers.find? (·.1 = k)).map (·.2) := by
  have hk : ¬((k : Int) < 0) := by omega
  simp [signer?, hk]

/-- Replacing the entry of key `k` in an association list: a lookup of `k` finds the new
entry, a lookup of any other key what it found before. -/
theorem find?_replaceKey {α : Type} (l : List (Nat × α)) (k j : Nat) (x : α) :
    ((l.filter (·.1 ≠ k)) ++ [(k, x)]).find? (·.1 = j) =
      if j = k then some (k, x) else l.find? (·.1 = j) := by
  induction l with
  | nil => by_cases h : j = k <;> simp [h, eq_comm]
  | cons p l ih =>
    by_cases hpk : p.1 = k
    · -- the old entry of `k` is dropped
      rw [List.filter_cons_of_neg (by simpa using hpk), ih]
      by_cases hjk : j = k
      · simp [hjk]
      · rw [if_neg hjk, if_neg hjk, List.find?_cons_of_neg (by simp; omega)]
    · rw [List.filter_cons_of_pos (by simpa using hpk), List.cons_append]
      by_cases hpj : p.1 = j
      · have hjk : j ≠ k := by omega
        rw [List.find?_cons_of_pos (by simpa using hpj), if_neg hjk,
          List.find?_cons_of_pos (by simpa using hpj)]
      · rw [List.find?_cons_of_neg (by simpa using hpj), ih,
          List.find?_cons_of_neg (by simpa using hpj)]

/-- Writing the record of input `k` replaces it and keeps every other input's. -/
theorem signer?_setSigner (k : Nat) (s : Signer) (j : Int) :
    (a.setSigner k s).signer? j = if j = k then some s else a.signer? j := by
  unfold signer? setSigner
  by_cases hj : j < 0
  · have hne : j ≠ k := by omega
    simp [hj, hne]
  · simp only [hj, if_false, find?_replaceKey]
    by_cases hjk : j = k
    · subst hjk
      simp
    · have hne : j.toNat ≠ k := by omega
      simp [hjk, hne]

/-- Replacing the record of an input leaves the transaction as it is. -/
@[simp] theorem tx_setSigner (k : Nat) (s : Signer) : (a.setSigner k s).tx = a.tx := rfl

/-- After the record of input `k` is replaced, the records are those of the other inputs and
the new one. -/
theorem mem_setSigner {k : Nat} {s : Signer} {p : Nat × Signer} :
    p ∈ (a.setSigner k s).signers ↔ (p ∈ a.signers ∧ p.1 ≠ k) ∨ p = (k, s) := by
  simp only [setSigner, List.mem_append, List.mem_filter, List.mem_singleton, decide_eq_true_eq]

/-- Writing a record keeps one record per input. -/
theorem nodup_setSigner (h : (a.signers.map (·.1)).Nodup) (k : Nat) (s : Signer) :
    ((a.setSigner k s).signers.map (·.1)).Nodup := by
  simp only [setSigner, List.map_append, List.map_cons, List.map_nil]
  refine List.nodup_append.2 ⟨h.sublist (List.filter_sublist.map _), by simp, ?_⟩
  simp only [List.mem_map, List.mem_filter, List.mem_singleton]
  rintro _ ⟨p, ⟨-, hp⟩, rfl⟩ _ rfl
  simpa using hp

/-- An input is finalized exactly when its record is marked finalized. -/
theorem inputState_eq_finalized_iff (input : Int) :
    a.inputState input = .finalized ↔ ∃ s, a.signer? input = some s ∧ s.finalized = true := by
  unfold inputState
  cases a.signer? input with
  | none => simp
  | some s => cases hf : s.finalized <;> simp [hf]

/-- Attaching an unlocking script sets it on its input of the transaction. -/
theorem tx_attach (k : Nat) (s : Signer) (script : Bytes) :
    (a.attach k s script).tx = a.tx.setSigScript k script := rfl

/-- Attaching a script finalizes the record of its input and keeps every other input's. -/
theorem signer?_attach (k : Nat) (s : Signer) (script : Bytes) (j : Int) :
    (a.attach k s script).signer? j =
      if j = k then some { s with finalized := true } else a.signer? j := by
  unfold attach
  rw [signer?_setSigner]
  by_cases hj : j = k <;> simp [hj, signer?]

end records

end Assembler

/-! ## Attaching unlocking scripts to a transaction -/

namespace Transaction

variable (tx : Transaction) (k : Nat) (script : Bytes)

/-- Setting an unlocking script keeps the version. -/
@[simp] theorem version_setSigScript : (tx.setSigScript k script).version = tx.version := rfl

/-- Setting an unlocking script keeps the outputs. -/
@[simp] theorem outputs_setSigScript : (tx.setSigScript k script).outputs = tx.outputs := rfl

/-- Setting an unlocking script keeps the lock time. -/
@[simp] theorem lockTime_setSigScript : (tx.setSigScript k script).lockTime = tx.lockTime := rfl

/-- Setting an unlocking script keeps the number of inputs. -/
@[simp] theorem length_inputs_setSigScript :
    (tx.setSigScript k script).inputs.length = tx.inputs.length := by
  simp [setSigScript]

/-- Setting the unlocking script of input `k` changes that input's script alone. -/
theorem inputs_setSigScript (j : Nat) :
    (tx.setSigScript k script).inputs[j]? =
      if j = k then tx.inputs[j]?.map ({ · with sigScript := script }) else tx.inputs[j]? := by
  unfold setSigScript
  by_cases hj : j = k
  · subst hj
    simp [List.getElem?_modify_eq]
  · simp [List.getElem?_modify_ne _ _ (Ne.symm hj), hj]

end Transaction

/-! ## One inversion lemma per operation -/

namespace Assembler

section operations

variable {a a' : Assembler}

/-- Choosing a branch succeeds when the input exists, the branch lies in `[0, n)`, `n` is the
number of branches of a given set and the input is not finalized; it then records the choice
with no signatures. -/
theorem selectBranch_eq_ok_iff {input : Int} {set : Option BranchSet} {i n : Int} :
    a.selectBranch input set i n = .ok a' ↔
      (0 ≤ input ∧ input < a.tx.inputs.length) ∧ (0 ≤ i ∧ i < n) ∧
      ∃ s, set = some s ∧ n = s.numBranches ∧ a.inputState input ≠ .finalized ∧
        a' = a.setSigner input.toNat { set := s, branch := i.toNat } := by
  simp only [selectBranch, throw, throwThe, MonadExceptOf.throw, bind, Except.bind, pure,
    Except.pure]
  by_cases hin : 0 ≤ input ∧ input < a.tx.inputs.length
  · by_cases hi : 0 ≤ i ∧ i < n
    · cases set with
      | none => simp [hin, hi]
      | some s =>
        by_cases hn : n = s.numBranches
        · subst hn
          by_cases hf : a.inputState input = .finalized
          · simp [hin, hi, hf]
          · simp [hin, hi, hf, eq_comm]
        · simp [hin, hi, hn]
    · simp [hin, hi]
  · simp [hin]

/-- An input collects signatures exactly when it has a record that is not finalized. -/
theorem selecting_eq_ok_iff {input : Int} {s : Signer} :
    a.selecting input = .ok s ↔ a.signer? input = some s ∧ s.finalized = false := by
  unfold selecting
  cases h : a.signer? input with
  | none => simp
  | some s' =>
    cases hf : s'.finalized
    · simp only [hf, Bool.false_eq_true, if_false, Except.ok.injEq, Option.some.injEq]
      constructor
      · rintro rfl; exact ⟨rfl, hf⟩
      · rintro ⟨rfl, -⟩; rfl
    · simp only [hf, if_true, reduceCtorEq, Option.some.injEq, false_iff, not_and]
      rintro rfl
      simp [hf]

/-- A signature is contributed to a selecting input for the combined script it spends and the
branch script it chose, when the combined script reads as a script; it is appended, with the
signer's key, to the input's signatures. -/
theorem contributeSignature_eq_ok_iff {input : Int} {key : PrivateKey} {combined : Bytes}
    {hashType : Nat} {branchScript : Bytes} :
    a.contributeSignature input key combined hashType branchScript = .ok a' ↔
      ∃ s, a.signer? input = some s ∧ s.finalized = false ∧ s.set.script = combined ∧
        (s.set.branches[s.branch]?.getD ⟨.nonStandard, []⟩).script = branchScript ∧
        ∃ sig, a.tx.signInput input.toNat combined
            (if hashType = 0 then SigHash.all else hashType) key = .ok sig ∧
          a' = a.setSigner input.toNat
            { s with contributions := s.contributions ++ [⟨key.publicKey, some sig⟩] } := by
  constructor
  · intro h
    cases hsel : a.selecting input with
    | error e => simp [contributeSignature, hsel, bind, Except.bind] at h
    | ok s =>
      obtain ⟨hs, hf⟩ := selecting_eq_ok_iff.1 hsel
      by_cases hc : s.set.script = combined
      · by_cases hb : (s.set.branches[s.branch]?.getD ⟨.nonStandard, []⟩).script = branchScript
        · cases hsig : a.tx.signInput input.toNat combined
              (if hashType = 0 then SigHash.all else hashType) key with
          | error e =>
            simp [contributeSignature, hsel, bind, Except.bind, hc, hb, hsig] at h
          | ok sig =>
            simp [contributeSignature, hsel, bind, Except.bind, hc, hb, hsig,
              pure, Except.pure] at h
            exact ⟨s, hs, hf, hc, hb, sig, rfl, h.symm⟩
        · simp [contributeSignature, hsel, bind, Except.bind, hc, hb, throw,
            throwThe, MonadExceptOf.throw] at h
      · simp [contributeSignature, hsel, bind, Except.bind, hc, throw,
          throwThe, MonadExceptOf.throw] at h
  · rintro ⟨s, hs, hf, hc, hb, sig, hsig, rfl⟩
    have hsel : a.selecting input = .ok s := selecting_eq_ok_iff.2 ⟨hs, hf⟩
    simp [contributeSignature, hsel, hc, hb, hsig, bind, Except.bind, pure,
      Except.pure]

/-- A signature made elsewhere is appended, with its key, to a selecting input's signatures. -/
theorem addSignature_eq_ok_iff {input : Int} {key : PublicKey} {sig : Option Bytes} :
    a.addSignature input key sig = .ok a' ↔
      ∃ s, a.signer? input = some s ∧ s.finalized = false ∧
        a' = a.setSigner input.toNat
          { s with contributions := s.contributions ++ [⟨key, sig⟩] } := by
  cases hsel : a.selecting input with
  | error e =>
    simp only [addSignature, hsel, bind, Except.bind, reduceCtorEq, false_iff, not_exists, not_and]
    intro s hs hf
    rw [selecting_eq_ok_iff.2 ⟨hs, hf⟩] at hsel
    cases hsel
  | ok s =>
    obtain ⟨hs, hf⟩ := selecting_eq_ok_iff.1 hsel
    simp only [addSignature, hsel, bind, Except.bind, pure, Except.pure, Except.ok.injEq]
    constructor
    · rintro rfl
      exact ⟨s, hs, hf, rfl⟩
    · rintro ⟨s', hs', -, rfl⟩
      rw [hs] at hs'
      cases hs'
      rfl

/-- Finalizing one input attaches its unlocking script when it is selecting and the script can
be built. -/
theorem finalizeInput_eq_ok_iff {registry : Registry} {input : Int} :
    a.finalizeInput registry input = .ok a' ↔
      ∃ s, a.signer? input = some s ∧ s.finalized = false ∧
        ∃ script, s.unlockingScript registry = .ok script ∧
          a' = a.attach input.toNat s script := by
  cases hs : a.signer? input with
  | none => simp [finalizeInput, hs, throw, throwThe, MonadExceptOf.throw]
  | some s =>
    cases hf : s.finalized
    · cases hu : s.unlockingScript registry with
      | error e => simp [finalizeInput, hs, hf, hu, bind, Except.bind]
      | ok script =>
        simp only [finalizeInput, hs, hf, hu, Except.mapError_ok, bind, Except.bind, pure,
          Except.pure, Bool.false_eq_true, if_false, Except.ok.injEq]
        constructor
        · rintro rfl
          exact ⟨s, rfl, hf, script, hu, rfl⟩
        · rintro ⟨s', hs', -, script', hu', rfl⟩
          cases hs'
          rw [hu] at hu'
          cases hu'
          rfl
    · simp [finalizeInput, hs, hf, throw, throwThe, MonadExceptOf.throw, bind, Except.bind]

end operations

/-! ## Finalizing all pending inputs -/

section finalize

variable {registry : Registry} {a a' : Assembler}

/-- In an association list with one entry per key, a lookup finds the entry of its key. -/
theorem find?_key_of_mem {α : Type} {l : List (Nat × α)} (hl : (l.map (·.1)).Nodup)
    {p : Nat × α} (hp : p ∈ l) : l.find? (·.1 = p.1) = some p := by
  induction l with
  | nil => cases hp
  | cons q l ih =>
    rw [List.map_cons, List.nodup_cons] at hl
    rcases List.mem_cons.1 hp with rfl | hp'
    · simp
    · have hne : q.1 ≠ p.1 := fun h => hl.1 (h ▸ List.mem_map_of_mem hp')
      rw [List.find?_cons_of_neg (by simpa using hne)]
      exact ih hl.2 hp'

/-- With one record per input, the record of input `k` is its entry. -/
theorem signer?_eq_some_iff (hnodup : (a.signers.map (·.1)).Nodup) (k : Nat) (s : Signer) :
    a.signer? k = some s ↔ (k, s) ∈ a.signers := by
  rw [signer?_ofNat]
  constructor
  · intro h
    obtain ⟨p, hp, rfl⟩ := Option.map_eq_some_iff.1 h
    have hk : p.1 = k := by simpa using List.find?_some hp
    have hmem := List.mem_of_find?_eq_some hp
    rwa [← hk]
  · intro h
    rw [find?_key_of_mem hnodup h]
    rfl

/-- With one record per input, the pending inputs are exactly the selecting ones. -/
theorem mem_pending_iff (hnodup : (a.signers.map (·.1)).Nodup) (k : Nat) :
    k ∈ a.pending ↔ ∃ s, a.signer? k = some s ∧ s.finalized = false := by
  simp only [pending, List.mem_mergeSort, List.mem_map, List.mem_filter, Bool.not_eq_true']
  constructor
  · rintro ⟨⟨k', s⟩, ⟨hmem, hf⟩, rfl⟩
    exact ⟨s, (signer?_eq_some_iff hnodup _ _).2 hmem, hf⟩
  · rintro ⟨s, hs, hf⟩
    exact ⟨(k, s), ⟨(signer?_eq_some_iff hnodup _ _).1 hs, hf⟩, rfl⟩

/-- With one record per input, each pending input is listed once. -/
theorem nodup_pending (hnodup : (a.signers.map (·.1)).Nodup) : a.pending.Nodup := by
  unfold pending
  refine (List.mergeSort_perm _ _).nodup_iff.2 (hnodup.sublist ?_)
  exact (List.filter_sublist).map _

/-- The pending inputs are taken in ascending order. -/
theorem sorted_pending : a.pending.Pairwise (· ≤ ·) := by
  have h : (List.mergeSort ((a.signers.filter fun p => !p.2.finalized).map (·.1))
      (fun x y : Nat => decide (x ≤ y))).Pairwise (fun x y => decide (x ≤ y) = true) :=
    List.pairwise_mergeSort (fun x y z hxy hyz => by simp at *; omega)
      (fun x y => by simp; omega) _
  unfold pending
  simpa using h

/-- The scripts of the inputs `ks` built all: one entry per input with a record, in order. -/
theorem unlockingScripts_eq_ok {ks : List Nat} {L : List (Nat × Signer × Bytes)}
    (h : unlockingScripts registry a ks = .ok L) :
    L.map (·.1) = ks.filter (fun i : Nat => (a.signer? (i : Int)).isSome) ∧
      ∀ p ∈ L, a.signer? p.1 = some p.2.1 ∧ p.2.1.unlockingScript registry = .ok p.2.2 := by
  induction ks generalizing L with
  | nil =>
    simp only [unlockingScripts, Except.ok.injEq] at h
    subst h
    simp
  | cons i ks ih =>
    cases hs : a.signer? (i : Int) with
    | none =>
      simp only [unlockingScripts, hs] at h
      exact ⟨by simp [(ih h).1, hs], (ih h).2⟩
    | some s =>
      cases hu : s.unlockingScript registry with
      | error e => simp [unlockingScripts, hs, hu, bind, Except.bind] at h
      | ok script =>
        cases hr : unlockingScripts registry a ks with
        | error e =>
          simp [unlockingScripts, hs, hu, hr, bind, Except.bind] at h
        | ok rest =>
          simp only [unlockingScripts, hs, hu, hr, Except.mapError_ok, bind, Except.bind, pure,
            Except.pure, Except.ok.injEq] at h
          subst h
          obtain ⟨hkeys, hall⟩ := ih hr
          refine ⟨by simp [hkeys, hs], ?_⟩
          rintro p (_ | ⟨_, hp⟩)
          · exact ⟨hs, hu⟩
          · exact hall p hp

/-- A failed build of the scripts of `ks` is the failure of the first input, in the order of
`ks`, whose script cannot be built; every input before it has its script. -/
theorem unlockingScripts_eq_error {ks : List Nat} {e : FinalizeError}
    (h : unlockingScripts registry a ks = .error e) :
    ∃ (pre : List Nat) (i : Nat) (post : List Nat) (s : Signer) (err : AssemblyError),
      ks = pre ++ i :: post ∧
      (∀ j ∈ pre, ∀ s, a.signer? (j : Int) = some s →
        ∃ script, s.unlockingScript registry = .ok script) ∧
      a.signer? (i : Int) = some s ∧ s.unlockingScript registry = .error err ∧
      e = .input i err := by
  induction ks with
  | nil => simp [unlockingScripts] at h
  | cons i ks ih =>
    cases hs : a.signer? (i : Int) with
    | none =>
      simp only [unlockingScripts, hs] at h
      obtain ⟨pre, j, post, s, err, rfl, hpre, hj⟩ := ih h
      refine ⟨i :: pre, j, post, s, err, rfl, ?_, hj⟩
      rintro k (_ | ⟨_, hk⟩) s' hs'
      · rw [hs] at hs'
        cases hs'
      · exact hpre k hk s' hs'
    | some s =>
      cases hu : s.unlockingScript registry with
      | error err =>
        simp only [unlockingScripts, hs, hu, Except.mapError_error, bind, Except.bind,
          Except.error.injEq] at h
        exact ⟨[], i, ks, s, err, rfl, by simp, hs, hu, h.symm⟩
      | ok script =>
        cases hr : unlockingScripts registry a ks with
        | ok rest =>
          simp [unlockingScripts, hs, hu, hr, bind, Except.bind, pure,
            Except.pure] at h
        | error e' =>
          simp only [unlockingScripts, hs, hu, hr, Except.mapError_ok, bind, Except.bind,
            Except.error.injEq] at h
          subst h
          obtain ⟨pre, j, post, s', err, rfl, hpre, hj⟩ := ih hr
          refine ⟨i :: pre, j, post, s', err, rfl, ?_, hj⟩
          rintro k (_ | ⟨_, hk⟩) s'' hs''
          · rw [hs] at hs''
            cases hs''
            exact ⟨script, hu⟩
          · exact hpre k hk s'' hs''

/-- Finalizing succeeds exactly when the unlocking scripts of all pending inputs are built,
and then attaches them in index order. -/
theorem finalize_eq_ok_iff :
    a.finalize registry = .ok a' ↔
      ∃ L, unlockingScripts registry a a.pending = .ok L ∧
        a' = L.foldl (fun a (i, s, script) => a.attach i s script) a := by
  unfold finalize
  cases h : unlockingScripts registry a a.pending with
  | error e => simp [bind, Except.bind]
  | ok L =>
    simp only [bind, Except.bind, pure, Except.pure, Except.ok.injEq]
    constructor
    · rintro rfl
      exact ⟨L, rfl, rfl⟩
    · rintro ⟨L', hL', rfl⟩
      cases hL'
      rfl

/-- A finalize that succeeds attaches the scripts of exactly the selecting inputs, in ascending
order. -/
theorem finalize_eq_ok (hnodup : (a.signers.map (·.1)).Nodup)
    (h : a.finalize registry = .ok a') :
    ∃ L : List (Nat × Signer × Bytes), L.map (·.1) = a.pending ∧
      (∀ p ∈ L, a.signer? p.1 = some p.2.1 ∧ p.2.1.finalized = false ∧
        p.2.1.unlockingScript registry = .ok p.2.2) ∧
      a' = L.foldl (fun a (i, s, script) => a.attach i s script) a := by
  obtain ⟨L, hL, rfl⟩ := finalize_eq_ok_iff.1 h
  obtain ⟨hkeys, hall⟩ := unlockingScripts_eq_ok hL
  -- every pending input has a record, so none is passed over
  have hpending : L.map (·.1) = a.pending := by
    rw [hkeys, List.filter_eq_self]
    intro i hi
    obtain ⟨s, hs, -⟩ := (mem_pending_iff hnodup i).1 hi
    simp [hs]
  refine ⟨L, hpending, fun p hp => ?_, rfl⟩
  obtain ⟨hs, hu⟩ := hall p hp
  have hmem : p.1 ∈ a.pending := hpending ▸ List.mem_map_of_mem hp
  obtain ⟨s', hs', hf⟩ := (mem_pending_iff hnodup p.1).1 hmem
  rw [hs] at hs'
  cases hs'
  exact ⟨hs, hf, hu⟩

/-! Attaching the scripts of a list of inputs one after the other, as a finalize does. -/

/-- Attaching scripts to other inputs leaves the record of an input as it was. -/
theorem signer?_attachAll_of_not_mem (L : List (Nat × Signer × Bytes)) (a : Assembler) {j : Int}
    (hj : ∀ p ∈ L, (p.1 : Int) ≠ j) :
    (L.foldl (fun a (i, s, script) => a.attach i s script) a).signer? j = a.signer? j := by
  induction L generalizing a with
  | nil => rfl
  | cons p L ih =>
    obtain ⟨i, s, script⟩ := p
    rw [List.foldl_cons, ih _ fun q hq => hj q (List.mem_cons_of_mem _ hq), signer?_attach,
      if_neg (Ne.symm (hj _ List.mem_cons_self))]

/-- Attaching scripts to other inputs leaves an input of the transaction as it was. -/
theorem inputs_attachAll_of_not_mem (L : List (Nat × Signer × Bytes)) (a : Assembler) {j : Nat}
    (hj : ∀ p ∈ L, p.1 ≠ j) :
    (L.foldl (fun a (i, s, script) => a.attach i s script) a).tx.inputs[j]? =
      a.tx.inputs[j]? := by
  induction L generalizing a with
  | nil => rfl
  | cons p L ih =>
    obtain ⟨i, s, script⟩ := p
    rw [List.foldl_cons, ih _ fun q hq => hj q (List.mem_cons_of_mem _ hq), tx_attach,
      Transaction.inputs_setSigScript, if_neg (Ne.symm (hj _ List.mem_cons_self))]

/-- Each input of the list ends finalized with its own script, however many follow it. -/
theorem signer?_attachAll_of_mem {L : List (Nat × Signer × Bytes)} (hL : (L.map (·.1)).Nodup)
    (a : Assembler) {p : Nat × Signer × Bytes} (hp : p ∈ L) :
    (L.foldl (fun a (i, s, script) => a.attach i s script) a).signer? p.1 =
      some { p.2.1 with finalized := true } := by
  induction L generalizing a with
  | nil => cases hp
  | cons q L ih =>
    obtain ⟨i, s, script⟩ := q
    rw [List.map_cons, List.nodup_cons] at hL
    rw [List.foldl_cons]
    rcases List.mem_cons.1 hp with rfl | hp'
    · -- no later entry names the same input
      have hlater : ∀ r ∈ L, (r.1 : Int) ≠ i := fun r hr h =>
        hL.1 (List.mem_map.2 ⟨r, hr, by omega⟩)
      rw [signer?_attachAll_of_not_mem L _ hlater, signer?_attach, if_pos rfl]
    · exact ih hL.2 _ hp'

/-- Attaching scripts to distinct inputs sets the unlocking script of each of them. -/
theorem inputs_attachAll_of_mem {L : List (Nat × Signer × Bytes)} (hL : (L.map (·.1)).Nodup)
    (a : Assembler) {p : Nat × Signer × Bytes} (hp : p ∈ L) :
    (L.foldl (fun a (i, s, script) => a.attach i s script) a).tx.inputs[p.1]? =
      a.tx.inputs[p.1]?.map ({ · with sigScript := p.2.2 }) := by
  induction L generalizing a with
  | nil => cases hp
  | cons q L ih =>
    obtain ⟨i, s, script⟩ := q
    rw [List.map_cons, List.nodup_cons] at hL
    rw [List.foldl_cons]
    rcases List.mem_cons.1 hp with rfl | hp'
    · have hlater : ∀ r ∈ L, r.1 ≠ i := fun r hr h => hL.1 (List.mem_map.2 ⟨r, hr, h⟩)
      rw [inputs_attachAll_of_not_mem L _ hlater, tx_attach, Transaction.inputs_setSigScript,
        if_pos rfl]
    · have hne : p.1 ≠ i := fun h => hL.1 (List.mem_map.2 ⟨p, hp', h⟩)
      rw [ih hL.2 _ hp', tx_attach, Transaction.inputs_setSigScript, if_neg hne]

end finalize

/-! ## Runs of calls -/

/-- One call of an assembler's operations, with its arguments. -/
inductive Call where
  /-- Choose branch `i` of `n` of a set, or of no set, for an input. -/
  | selectBranch (input : Int) (set : Option BranchSet) (i n : Int)
  /-- Sign an input with a key. -/
  | contributeSignature (input : Int) (key : PrivateKey) (combined : Bytes) (hashType : Nat)
      (branchScript : Bytes)
  /-- Add a signature made elsewhere to an input. -/
  | addSignature (input : Int) (key : PublicKey) (sig : Option Bytes)
  /-- Attach the unlocking script of one input. -/
  | finalizeInput (input : Int)
  /-- Attach the unlocking scripts of all selecting inputs. -/
  | finalize
  /-- Finalize and hand out the transaction. -/
  | build

namespace Call

/-- The assembler after a call that succeeds; `none` when it fails. The registry of unlockers is
the one in force for the whole run. -/
def exec (registry : Registry) (a : Assembler) : Call → Option Assembler
  | selectBranch input set i n => (a.selectBranch input set i n).toOption
  | contributeSignature input key combined hashType branchScript =>
    (a.contributeSignature input key combined hashType branchScript).toOption
  | addSignature input key sig => (a.addSignature input key sig).toOption
  | finalizeInput input => (a.finalizeInput registry input).toOption
  | finalize => (a.finalize registry).toOption
  | build => ((a.build registry).map (·.2)).toOption

/-- The assembler after a call: one that fails leaves it as it was. -/
def apply (registry : Registry) (a : Assembler) (c : Call) : Assembler :=
  (c.exec registry a).getD a

/-- A result read as an option is present exactly when it is a success. -/
theorem toOption_eq_some {ε α : Type} {x : Except ε α} {v : α} :
    x.toOption = some v ↔ x = .ok v := by
  cases x <;> simp [Except.toOption]

/-- A call that succeeds moves the assembler to its result. -/
theorem apply_of_exec_some {registry : Registry} {a a' : Assembler} {c : Call}
    (h : c.exec registry a = some a') : c.apply registry a = a' := by
  simp [apply, h]

/-- A call that fails leaves the assembler as it was. -/
theorem apply_of_exec_none {registry : Registry} {a : Assembler} {c : Call}
    (h : c.exec registry a = none) : c.apply registry a = a := by
  simp [apply, h]

/-- Building the transaction changes the assembler as finalizing does. -/
theorem exec_build (registry : Registry) (a : Assembler) :
    build.exec registry a = finalize.exec registry a := by
  simp only [exec, Assembler.build]
  cases a.finalize registry <;> rfl

end Call

/-- The assembler after a run of calls, each on the state the one before left. -/
def runCalls (registry : Registry) (a : Assembler) (cs : List Call) : Assembler :=
  cs.foldl (fun a c => c.apply registry a) a

/-- Running no calls leaves the assembler as it is. -/
@[simp] theorem runCalls_nil (registry : Registry) (a : Assembler) : a.runCalls registry [] = a :=
  rfl

/-- Running calls applies the first one, then the rest to what it leaves. -/
theorem runCalls_cons (registry : Registry) (a : Assembler) (c : Call) (cs : List Call) :
    a.runCalls registry (c :: cs) = (c.apply registry a).runCalls registry cs := rfl

end Assembler

end BranchLock
