import BranchLock.Proofs.AssemblerLifecycle
import BranchLock.Proofs.InterpreterRuns
import BranchLock.Spend.Verify

/-!
# Sets that no assembler can spend

The output of a set pays to the hash of its combined script. The input that spends it pushes
that script last, and the interpreter runs it as the redeem script. The interpreter refuses a
disabled opcode, `OP_VERIF` and `OP_VERNOTIF` wherever they stand, in arms that do not run too.
So if the combined script holds such an opcode, in any branch, no input an assembler finalized
for the set passes its check, whatever branch it chose and whatever calls were made
(`refused_set_never_verifies`). The size of the combined script is therefore not the only limit
a set must meet to be spent.

The route:

* an assembler attaches to a finalized input the unlocking script of its record
  (`Assembler.Lifecycle.finalized`);
* that script is built of pushes that read back, the combined script last
  (`Signer.unlockingScript_tokens`);
* running it leaves the combined script on top (`Interpreter.runScript_last_push`), which then
  runs as the redeem script (`Transaction.checkInput_p2sh`) and is refused
  (`Interpreter.runScript_holdsRefusedOpcode`).
-/

namespace BranchLock

/-! ## The output script of a set -/

/-- The output script of a set pays to a script hash. -/
theorem BranchSet.isPayToScriptHash_pkScript (s : BranchSet) :
    Script.isPayToScriptHash s.pkScript = true := by
  have h := hash160_length s.script
  simp [BranchSet.pkScript, BranchSet.scriptHash, Script.payToScriptHash,
    Script.isPayToScriptHash, h, Opcode.opHash160, Opcode.opEqual]

/-! ## The unlocking script of a record -/

/-- The unlocking script of a record reads completely and ends with the push of the combined
script. -/
theorem Signer.unlockingScript_tokens {registry : Registry} {s : Signer} {script : Bytes}
    (h : s.unlockingScript registry = .ok script) :
    ∃ ts, Script.tokens script = .ok (ts ++ [Push.dataToken s.set.script]) := by
  simp only [Signer.unlockingScript, bind, Except.bind] at h
  split at h
  · cases h
  split at h
  · cases h
  split at h
  · cases h
  rename_i data _ _ path _
  obtain ⟨hfirst, rfl⟩ := (Push.build_eq_ok_iff _ _).1 (Except.mapError_eq_ok.1 h)
  -- the data and the decisions read back, and then the combined script does
  have hread : ∀ p ∈ Push.datas data ++
      path.reverse.map (fun d => Push.op (if d = true then Opcode.op1 else Opcode.op0)),
      p.readsBack = true := by
    intro p hp
    rcases List.mem_append.1 hp with hp | hp
    · obtain ⟨d, -, rfl⟩ := List.mem_map.1 hp
      simpa [Push.readsBack] using Push.firstError_data_le hfirst (by simp [hp])
    · obtain ⟨d, -, rfl⟩ := List.mem_map.1 hp
      cases d <;> decide
  obtain ⟨ts, hts⟩ := Push.parse_flatMap_encode _ hread
  have hlast : s.set.script.length ≤ maxElementSize := Push.firstError_data_le hfirst (by simp)
  refine ⟨ts, ?_⟩
  have hone := Push.parse_encodeData_append s.set.script hlast []
  rw [List.append_nil, Script.parse_nil] at hone
  rw [Script.tokens_eq_ok_iff, List.flatMap_append, Script.parse_append hts, List.flatMap_cons,
    List.flatMap_nil, List.append_nil, Push.encode, hone]

/-! ## No spend of a set that holds a refused opcode -/

/-- Neither the empty script nor the zero byte holds a refused opcode. -/
theorem Script.ne_of_holdsRefusedOpcode {bs : Bytes} (h : Script.holdsRefusedOpcode bs = true) :
    bs ≠ [] ∧ bs ≠ [0] := by
  constructor
  · rintro rfl
    simp [Script.holdsRefusedOpcode, Script.tokens] at h
  · rintro rfl
    rw [Script.holdsRefusedOpcode, Script.tokens, Script.parse_cons_of_none 0 (by decide),
      Script.parse_nil] at h
    exact absurd h (by decide)

/-- An input that an assembler finalized for a set whose combined script holds an opcode refused
wherever it stands fails its check against the set's output script, whatever branch it chose and
whatever calls were made. -/
theorem refused_set_never_verifies (registry : Registry) (tx0 : Transaction)
    (calls : List Assembler.Call) (k : Nat) (s : Signer)
    (hs : ((⟨tx0, []⟩ : Assembler).runCalls registry calls).signer? k = some s)
    (hf : s.finalized = true) (hrefused : Script.holdsRefusedOpcode s.set.script = true) :
    ∃ e, ((⟨tx0, []⟩ : Assembler).runCalls registry calls).tx.verifyInput k s.set.pkScript =
      .error e := by
  have h : Assembler.Lifecycle registry tx0 ((⟨tx0, []⟩ : Assembler).runCalls registry calls) :=
    (Assembler.lifecycle_new registry tx0).runCalls calls
  generalize (⟨tx0, []⟩ : Assembler).runCalls registry calls = a at h hs ⊢
  obtain ⟨hne, hne0⟩ := Script.ne_of_holdsRefusedOpcode hrefused
  -- the input carries the unlocking script of its record
  obtain ⟨script, hu, hin⟩ := h.finalized k s hs hf
  have hk0 : k < tx0.inputs.length :=
    (h.recorded _ ((Assembler.signer?_eq_some_iff h.nodup k s).1 hs)).1
  have hk : k < a.tx.inputs.length := h.length ▸ hk0
  have hsig : (a.tx.inputs.get ⟨k, hk⟩).sigScript = script := by
    rw [List.getElem?_eq_getElem hk, List.getElem?_eq_getElem hk0] at hin
    simp only [Option.map_some, Option.some.injEq] at hin
    simp [hin]
  obtain ⟨ts, hts⟩ := Signer.unlockingScript_tokens hu
  cases hv : a.tx.verifyInput k s.set.pkScript with
  | error e => exact ⟨e, rfl⟩
  | ok u =>
    exfalso
    have hcheck : a.tx.checkInput k s.set.pkScript = .ok () := by
      unfold Transaction.verifyInput at hv
      cases hc : a.tx.checkInput k s.set.pkScript with
      | error e => rw [hc] at hv; cases hv
      | ok u' => rfl
    rcases Transaction.checkInput_p2sh s.set.isPayToScriptHash_pkScript hk hcheck with
      h0 | ⟨afterSig, hrun, hredeem⟩
    · -- the unlocking script is not empty: it reads as at least one token
      rw [hsig] at h0
      subst h0
      simp [Script.tokens] at hts
    · -- it leaves the combined script on top, which then runs as the redeem script
      rw [hsig] at hrun
      obtain ⟨rest, rfl⟩ := Interpreter.runScript_last_push hne0 hts hrun
      rcases hredeem _ rest rfl with h0 | ⟨st, hst⟩
      · exact hne h0
      · rw [Interpreter.runScript_holdsRefusedOpcode hst] at hrefused
        cases hrefused

end BranchLock
