import BranchLock.Proofs.AssemblerLifecycle

/-!
# When the calls of an assembler fail

In every state that calls reach from a new assembler, each operation fails exactly when its
contract says, with the code of the first check it breaks (`assembler_errors`):

* choosing a branch checks, in order, the input index, the branch index, the set and its
  number of branches, and that the input is not finalized, and succeeds when all pass;
* contributing or adding a signature fails with an invalid state exactly when the input is not
  selecting; a contribution then checks the combined script, then the chosen branch's script;
* finalizing one input fails exactly when it is unselected, finalized, or its unlocking script
  cannot be built;
* finalizing all inputs, or building, fails exactly when some selecting input's unlocking script
  cannot be built, and the error is the one of the smallest such input.

A call that fails leaves the assembler as it was: an operation returns either an error or the
new assembler, never both, and a run of calls keeps the assembler a failed call was given.

The codes of the first three operations are read off through `misuseCode`. The batch finalize
is the one with an argument: its pending inputs are sorted, so the first failure in its order is
the failure of least index (`finalize_eq_error_iff`).
-/

namespace BranchLock

/-- The code of the misuse a call failed with, where `misuse` finds the misuse an error stands
for: `none` when the call succeeded or failed for another reason. -/
def misuseCode {ε α : Type} (misuse : ε → Option BranchError) :
    Except ε α → Option BranchCode
  | .ok _ => none
  | .error e => (misuse e).map BranchError.code

/-- The misuse a failed contribution stands for; a failure to sign is none. -/
def ContributeError.misuse? : ContributeError → Option BranchError
  | .branch e => some e
  | .sign _ _ => none

namespace Assembler

/-! ## Choosing a branch and collecting signatures -/

section misuse

variable (a : Assembler)

/-- The checks of a branch choice, in the order it makes them. -/
theorem misuseCode_selectBranch (k : Int) (set : Option BranchSet) (i n : Int) :
    misuseCode some (a.selectBranch k set i n) =
      if ¬(0 ≤ k ∧ k < a.tx.inputs.length) then some .invalidInputIndex
      else if ¬(0 ≤ i ∧ i < n) then some .invalidBranchIndex
      else if set.map (fun s => (s.numBranches : Int)) ≠ some n then some .branchCountMismatch
      else if a.inputState k = .finalized then some .alreadyFinalized
      else none := by
  simp only [selectBranch, throw, throwThe, MonadExceptOf.throw, bind, Except.bind, pure,
    Except.pure]
  by_cases hk : 0 ≤ k ∧ k < a.tx.inputs.length
  · by_cases hi : 0 ≤ i ∧ i < n
    · cases set with
      | none => simp [hk, hi, misuseCode, BranchError.code]
      | some s =>
        by_cases hn : n = s.numBranches
        · subst hn
          by_cases hf : a.inputState k = .finalized
          · simp [hk, hi, hf, misuseCode, BranchError.code]
          · simp [hk, hi, hf, misuseCode]
        · simp [hk, hi, hn, Ne.symm hn, misuseCode, BranchError.code]
    · simp [hk, hi, misuseCode, BranchError.code]
  · simp [hk, misuseCode, BranchError.code]

/-- An input is selecting exactly when its record is not finalized. -/
theorem inputState_eq_selecting_iff (k : Int) :
    a.inputState k = .selecting ↔ ∃ s, a.signer? k = some s ∧ s.finalized = false := by
  unfold inputState
  cases a.signer? k with
  | none => simp
  | some s => cases hf : s.finalized <;> simp [hf]

/-- Asking for the record of an input that is not selecting fails, naming its state. -/
theorem selecting_of_not_selecting {k : Int} (h : a.inputState k ≠ .selecting) :
    a.selecting k = .error (.notSelecting k (a.inputState k)) := by
  unfold selecting
  unfold inputState at h ⊢
  cases hs : a.signer? k with
  | none => rfl
  | some s =>
    cases hf : s.finalized
    · simp [hs, hf] at h
    · simp [hf]

/-- A contribution to an input that is not selecting is an invalid-state misuse. -/
theorem misuseCode_contributeSignature_of_not_selecting {k : Int} {key : PrivateKey}
    {combined : Bytes} {hashType : Nat} {branchScript : Bytes}
    (h : a.inputState k ≠ .selecting) :
    misuseCode ContributeError.misuse?
        (a.contributeSignature k key combined hashType branchScript) = some .invalidState := by
  simp [contributeSignature, a.selecting_of_not_selecting h, bind, Except.bind,
    misuseCode, ContributeError.misuse?, BranchError.code]

/-- A contribution to a selecting input checks the combined script, then the chosen branch's
script; when both match it is no misuse, whether the signing succeeds or not. -/
theorem misuseCode_contributeSignature_of_selecting {k : Int} {s : Signer} {key : PrivateKey}
    {combined : Bytes} {hashType : Nat} {branchScript : Bytes} (hs : a.signer? k = some s)
    (hf : s.finalized = false) :
    misuseCode ContributeError.misuse?
        (a.contributeSignature k key combined hashType branchScript) =
      if s.set.script ≠ combined then some .combinedScriptMismatch
      else if (s.set.branches[s.branch]?.getD ⟨.nonStandard, []⟩).script ≠ branchScript then
        some .branchScriptMismatch
      else none := by
  have hsel : a.selecting k = .ok s := selecting_eq_ok_iff.2 ⟨hs, hf⟩
  by_cases hc : s.set.script = combined
  · by_cases hb : (s.set.branches[s.branch]?.getD ⟨.nonStandard, []⟩).script = branchScript
    · -- past both checks only the signing can fail, and it is no misuse
      cases hsig : a.tx.signInput k.toNat combined
          (if hashType = 0 then SigHash.all else hashType) key <;>
        simp [contributeSignature, hsel, hc, hb, hsig, bind, Except.bind, pure,
          Except.pure, misuseCode, ContributeError.misuse?]
    · simp [contributeSignature, hsel, hc, hb, bind, Except.bind, throw,
        throwThe, MonadExceptOf.throw, misuseCode, ContributeError.misuse?, BranchError.code]
  · simp [contributeSignature, hsel, hc, bind, Except.bind, throw, throwThe,
      MonadExceptOf.throw, misuseCode, ContributeError.misuse?, BranchError.code]

/-- A contribution is an invalid-state misuse exactly when its input is not selecting. -/
theorem misuseCode_contributeSignature_eq_invalidState (k : Int) (key : PrivateKey)
    (combined : Bytes) (hashType : Nat) (branchScript : Bytes) :
    misuseCode ContributeError.misuse?
        (a.contributeSignature k key combined hashType branchScript) = some .invalidState ↔
      a.inputState k ≠ .selecting := by
  constructor
  · intro h hsel
    obtain ⟨s, hs, hf⟩ := (a.inputState_eq_selecting_iff k).1 hsel
    rw [a.misuseCode_contributeSignature_of_selecting hs hf] at h
    split at h
    · cases h
    · split at h <;> cases h
  · exact a.misuseCode_contributeSignature_of_not_selecting

/-- A signature made elsewhere is added exactly to a selecting input; otherwise the call is an
invalid-state misuse. -/
theorem misuseCode_addSignature (k : Int) (key : PublicKey) (sig : Option Bytes) :
    misuseCode some (a.addSignature k key sig) =
      if a.inputState k = .selecting then none else some .invalidState := by
  by_cases h : a.inputState k = .selecting
  · obtain ⟨s, hs, hf⟩ := (a.inputState_eq_selecting_iff k).1 h
    simp [addSignature, selecting_eq_ok_iff.2 ⟨hs, hf⟩, h, bind, Except.bind, pure, Except.pure,
      misuseCode]
  · simp [addSignature, a.selecting_of_not_selecting h, h, bind, Except.bind, misuseCode,
      BranchError.code]

end misuse

/-! ## Finalizing -/

section finalize

variable {registry : Registry} {a : Assembler}

/-- Finalizing one input fails exactly when it is unselected, finalized, or its unlocking script
cannot be built, and then says which. -/
theorem finalizeInput_eq_error_iff (k : Int) (e : FinalizeError) :
    a.finalizeInput registry k = .error e ↔
      (a.inputState k = .unselected ∧ e = .state (.notSelected k)) ∨
      (a.inputState k = .finalized ∧ e = .state (.finalized k)) ∨
      ∃ s err, a.signer? k = some s ∧ s.finalized = false ∧
        s.unlockingScript registry = .error err ∧ e = .input k.toNat err := by
  unfold finalizeInput inputState
  cases hs : a.signer? k with
  | none =>
    simp only [throw, throwThe, MonadExceptOf.throw, Except.error.injEq]
    constructor
    · rintro rfl
      exact .inl ⟨trivial, rfl⟩
    · rintro (⟨-, rfl⟩ | ⟨h, -⟩ | ⟨s, err, h, -⟩)
      · rfl
      · cases h
      · cases h
  | some s =>
    cases hf : s.finalized
    · cases hu : s.unlockingScript registry with
      | error err =>
        simp only [hf, hu, Except.mapError_error, bind, Except.bind, Bool.false_eq_true, if_false,
          Except.error.injEq]
        constructor
        · rintro rfl
          exact .inr (.inr ⟨s, err, rfl, hf, hu, rfl⟩)
        · rintro (⟨h, -⟩ | ⟨h, -⟩ | ⟨s', err', hs', -, hu', rfl⟩)
          · cases h
          · cases h
          · cases hs'
            rw [hu] at hu'
            cases hu'
            rfl
      | ok script =>
        simp only [hf, hu, Except.mapError_ok, bind, Except.bind, pure, Except.pure,
          Bool.false_eq_true, if_false, reduceCtorEq, false_iff]
        rintro (⟨h, -⟩ | ⟨h, -⟩ | ⟨s', err', hs', -, hu', -⟩)
        · cases h
        · cases h
        · cases hs'
          rw [hu] at hu'
          cases hu'
    · simp only [hf, if_true, throw, throwThe, MonadExceptOf.throw, bind, Except.bind,
        Except.error.injEq]
      constructor
      · rintro rfl
        exact .inr (.inl ⟨trivial, rfl⟩)
      · rintro (⟨h, -⟩ | ⟨-, rfl⟩ | ⟨s', err', hs', hf', -⟩)
        · cases h
        · rfl
        · cases hs'
          rw [hf] at hf'
          cases hf'

variable (registry a) in
/-- Input `k` is the selecting input of least index whose unlocking script cannot be built, for
the reason `err`. -/
structure FirstFailure (k : Nat) (err : AssemblyError) : Prop where
  /-- The script of input `k` fails. -/
  failing : ∃ s, a.signer? k = some s ∧ s.finalized = false ∧
    s.unlockingScript registry = .error err
  /-- The script of every selecting input before it is built. -/
  earlier : ∀ j < k, ∀ s, a.signer? j = some s → s.finalized = false →
    ∃ script, s.unlockingScript registry = .ok script

/-- There is one first failure. -/
theorem FirstFailure.unique {k k' : Nat} {err err' : AssemblyError}
    (h : FirstFailure registry a k err) (h' : FirstFailure registry a k' err') :
    k = k' ∧ err = err' := by
  obtain ⟨s, hs, hf, hu⟩ := h.failing
  obtain ⟨s', hs', hf', hu'⟩ := h'.failing
  -- an input before the other's would have had its script built
  have hkk : k = k' := by
    rcases Nat.lt_trichotomy k k' with hlt | heq | hgt
    · obtain ⟨script, hok⟩ := h'.earlier k hlt s hs hf
      rw [hu] at hok
      cases hok
    · exact heq
    · obtain ⟨script, hok⟩ := h.earlier k' hgt s' hs' hf'
      rw [hu'] at hok
      cases hok
  subst hkk
  rw [hs] at hs'
  cases hs'
  rw [hu] at hu'
  exact ⟨rfl, Except.error.inj hu'⟩

/-- Finalizing fails exactly with the error met building the unlocking scripts of the
pending inputs. -/
theorem finalize_eq_error_iff_unlockingScripts (e : FinalizeError) :
    a.finalize registry = .error e ↔ unlockingScripts registry a a.pending = .error e := by
  unfold finalize
  cases unlockingScripts registry a a.pending <;> simp [bind, Except.bind, pure, Except.pure]

/-- A failed finalize fails at the first failure. -/
theorem finalize_eq_error (hnodup : (a.signers.map (·.1)).Nodup) {e : FinalizeError}
    (h : a.finalize registry = .error e) :
    ∃ k err, FirstFailure registry a k err ∧ e = .input k err := by
  obtain ⟨pre, i, post, s, err, hks, hpre, hs, hu, rfl⟩ :=
    unlockingScripts_eq_error ((finalize_eq_error_iff_unlockingScripts e).1 h)
  have hmem : i ∈ a.pending := by
    rw [hks]
    exact List.mem_append_right _ List.mem_cons_self
  obtain ⟨s', hs', hf⟩ := (mem_pending_iff hnodup i).1 hmem
  rw [hs] at hs'
  cases hs'
  refine ⟨i, err, ⟨⟨s, hs, hf, hu⟩, fun j hj s' hsj hfj => ?_⟩, rfl⟩
  -- a selecting input of smaller index is pending before `i`, since pending is ascending
  have hj' : j ∈ pre ++ i :: post := hks ▸ (mem_pending_iff hnodup j).2 ⟨s', hsj, hfj⟩
  have hsorted : (pre ++ i :: post).Pairwise (· ≤ ·) := hks ▸ sorted_pending
  rcases List.mem_append.1 hj' with hpre' | hpost
  · exact hpre j hpre' s' hsj
  · rcases List.mem_cons.1 hpost with rfl | hpost
    · exact absurd hj (Nat.lt_irrefl j)
    · have hij : i ≤ j := (List.pairwise_cons.1 (List.pairwise_append.1 hsorted).2.1).1 j hpost
      omega

/-- A finalize that succeeds built the script of every selecting input, so none of them fails. -/
theorem finalize_ne_ok (hnodup : (a.signers.map (·.1)).Nodup) {k : Nat} {s : Signer}
    {err : AssemblyError} (hs : a.signer? k = some s) (hf : s.finalized = false)
    (hu : s.unlockingScript registry = .error err) (a' : Assembler) :
    a.finalize registry ≠ .ok a' := by
  intro hfin
  obtain ⟨L, hkeys, hall, -⟩ := finalize_eq_ok hnodup hfin
  have hk : k ∈ L.map (·.1) := hkeys ▸ (mem_pending_iff hnodup k).2 ⟨s, hs, hf⟩
  obtain ⟨p, hp, rfl⟩ := List.mem_map.1 hk
  obtain ⟨hs', -, hu'⟩ := hall p hp
  rw [hs] at hs'
  cases hs'
  rw [hu] at hu'
  cases hu'

/-- Finalizing all inputs fails exactly at the first failure, with its error. -/
theorem finalize_eq_error_iff (hnodup : (a.signers.map (·.1)).Nodup) (e : FinalizeError) :
    a.finalize registry = .error e ↔
      ∃ k err, FirstFailure registry a k err ∧ e = .input k err := by
  refine ⟨finalize_eq_error hnodup, ?_⟩
  rintro ⟨k, err, hfirst, rfl⟩
  cases hfin : a.finalize registry with
  | error e' =>
    obtain ⟨k', err', hfirst', rfl⟩ := finalize_eq_error hnodup hfin
    obtain ⟨rfl, rfl⟩ := hfirst'.unique hfirst
    rfl
  | ok a' =>
    obtain ⟨s, hs, hf, hu⟩ := hfirst.failing
    exact absurd hfin (finalize_ne_ok hnodup hs hf hu a')

/-- Finalizing all inputs fails exactly when the script of some selecting input fails. -/
theorem finalize_fails_iff (hnodup : (a.signers.map (·.1)).Nodup) :
    (∃ e, a.finalize registry = .error e) ↔
      ∃ (k : Nat) (s : Signer) (err : AssemblyError), a.signer? k = some s ∧
        s.finalized = false ∧ s.unlockingScript registry = .error err := by
  constructor
  · rintro ⟨e, he⟩
    obtain ⟨k, err, hfirst, -⟩ := finalize_eq_error hnodup he
    obtain ⟨s, hs, hf, hu⟩ := hfirst.failing
    exact ⟨k, s, err, hs, hf, hu⟩
  · rintro ⟨k, s, err, hs, hf, hu⟩
    cases hfin : a.finalize registry with
    | error e => exact ⟨e, rfl⟩
    | ok a' => exact absurd hfin (finalize_ne_ok hnodup hs hf hu a')

/-- Building the transaction fails exactly with the error finalizing fails with. -/
theorem build_eq_error_iff (e : FinalizeError) :
    a.build registry = .error e ↔ a.finalize registry = .error e := by
  unfold build
  cases a.finalize registry <;> simp [Except.map]

end finalize

/-- In every state that calls reach from a new assembler on `tx0`, each operation fails exactly
as its contract says:
* a branch choice with the code of the first of its checks that fails, in order: the input
  index, the branch index, the set and its number of branches, the input not finalized;
* a contribution with an invalid state exactly when the input is not selecting, and for a
  selecting input with the code of the first of its checks that fails: the combined script, then
  the chosen branch's script;
* a signature added elsewhere with an invalid state exactly when the input is not selecting;
* a finalize of one input exactly when the input is unselected, finalized, or its unlocking
  script cannot be built;
* a finalize of all inputs, or a build, exactly when some selecting input's unlocking script
  cannot be built, with the error of the smallest such input;
and a call that fails leaves the assembler as it was. -/
theorem assembler_errors (registry : Registry) (tx0 : Transaction) (calls : List Call) :
    let a := (⟨tx0, []⟩ : Assembler).runCalls registry calls
    (∀ (k : Int) (set : Option BranchSet) (i n : Int),
      misuseCode some (a.selectBranch k set i n) =
        if ¬(0 ≤ k ∧ k < tx0.inputs.length) then some .invalidInputIndex
        else if ¬(0 ≤ i ∧ i < n) then some .invalidBranchIndex
        else if set.map (fun s => (s.numBranches : Int)) ≠ some n then some .branchCountMismatch
        else if a.inputState k = .finalized then some .alreadyFinalized
        else none) ∧
    (∀ (k : Int) (key : PrivateKey) (combined : Bytes) (hashType : Nat) (branchScript : Bytes),
      (misuseCode ContributeError.misuse?
          (a.contributeSignature k key combined hashType branchScript) = some .invalidState ↔
        a.inputState k ≠ .selecting) ∧
      ∀ s, a.signer? k = some s → s.finalized = false →
        misuseCode ContributeError.misuse?
            (a.contributeSignature k key combined hashType branchScript) =
          if s.set.script ≠ combined then some .combinedScriptMismatch
          else if s.set.branches[s.branch]?.map (·.script) ≠ some branchScript then
            some .branchScriptMismatch
          else none) ∧
    (∀ (k : Int) (key : PublicKey) (sig : Option Bytes),
      misuseCode some (a.addSignature k key sig) =
        if a.inputState k = .selecting then none else some .invalidState) ∧
    (∀ (k : Int) (e : FinalizeError),
      a.finalizeInput registry k = .error e ↔
        (a.inputState k = .unselected ∧ e = .state (.notSelected k)) ∨
        (a.inputState k = .finalized ∧ e = .state (.finalized k)) ∨
        ∃ s err, a.signer? k = some s ∧ s.finalized = false ∧
          s.unlockingScript registry = .error err ∧ e = .input k.toNat err) ∧
    ((∃ e, a.finalize registry = .error e) ↔
      ∃ (k : Nat) (s : Signer) (err : AssemblyError), a.signer? k = some s ∧
        s.finalized = false ∧ s.unlockingScript registry = .error err) ∧
    (∀ e : FinalizeError,
      a.finalize registry = .error e ↔
        ∃ k err, FirstFailure registry a k err ∧ e = .input k err) ∧
    (∀ e : FinalizeError, a.build registry = .error e ↔ a.finalize registry = .error e) ∧
    ∀ c : Call, c.exec registry a = none → c.apply registry a = a := by
  intro a
  have h : Lifecycle registry tx0 a := (lifecycle_new registry tx0).runCalls calls
  refine ⟨fun k set i n => ?select, fun k key combined hashType branchScript =>
    ⟨a.misuseCode_contributeSignature_eq_invalidState k key combined hashType branchScript,
      fun s hs hf => ?contribute⟩,
    a.misuseCode_addSignature, finalizeInput_eq_error_iff, finalize_fails_iff h.nodup,
    finalize_eq_error_iff h.nodup, build_eq_error_iff, fun c hc => Call.apply_of_exec_none hc⟩
  case select =>
    rw [a.misuseCode_selectBranch, h.length]
  case contribute =>
    -- the chosen branch is one of the set's, so looking it up finds it
    obtain ⟨-, hmem⟩ := h.mem_of_signer? hs
    have hb : s.branch < s.set.branches.length := (h.recorded _ hmem).2
    rw [a.misuseCode_contributeSignature_of_selecting hs hf, List.getElem?_eq_getElem hb]
    simp

end Assembler

end BranchLock
