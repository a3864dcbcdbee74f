import BranchLock.Script.Engine
import BranchLock.Proofs.ScriptReading

/-!
# What a successful run of the interpreter shows

The interpreter runs a script token by token, so a run of a script that succeeds is a run of
each token that succeeds (`Interpreter.runTokens_append`). Two facts about single tokens follow
through whole runs:

* a disabled opcode, `OP_VERIF` and `OP_VERNOTIF` are refused wherever they stand, in arms that
  do not run too, so no script that holds one runs (`Interpreter.runScript_holdsRefusedOpcode`);
* the shortest push of a data element pushes that element, the single zero byte apart, which is
  pushed empty (`Interpreter.run_dataToken`); so a script whose last token is such a push leaves
  the element on top (`Interpreter.runScript_last_push`).
-/

namespace BranchLock

/-- Opcodes the interpreter refuses wherever they stand, in arms that do not run too. -/
def Opcode.refusedAnywhere (op : UInt8) : Bool :=
  Opcode.isDisabled op || op = Opcode.opVerIf || op = Opcode.opVerNotIf

/-- Whether a script reads completely and holds an opcode refused wherever it stands. -/
def Script.holdsRefusedOpcode (bs : Bytes) : Bool :=
  match Script.tokens bs with
  | .ok ts => ts.any fun t => Opcode.refusedAnywhere t.opcode
  | .error _ => false

/-! ## Small script numbers -/

/-- A positive number below 256 has a magnitude of one byte. -/
theorem ScriptNum.magnitude_of_lt {n : Nat} (h0 : n ≠ 0) (h : n < 256) :
    ScriptNum.magnitude n = [UInt8.ofNat n] := by
  rw [ScriptNum.magnitude.eq_def, if_neg h0, Nat.mod_eq_of_lt h, Nat.div_eq_of_lt h,
    ScriptNum.magnitude.eq_def, if_pos rfl]

/-- A positive number below 128 is written as its one byte. -/
theorem ScriptNum.encode_of_lt {n : Nat} (h0 : n ≠ 0) (h : n < 128) :
    ScriptNum.encode n = [UInt8.ofNat n] := by
  -- the sign bit of the one byte is clear
  have hand : UInt8.ofNat n &&& 0x80 = 0 := by
    have hle : n &&& 128 ≤ n := Nat.and_le_left
    have hmod : (n &&& 128) % 2 ^ 7 = 0 := by
      rw [Nat.and_mod_two_pow]
      simp
    apply UInt8.toNat_inj.1
    simp [UInt8.toNat_and, Nat.mod_eq_of_lt (by omega : n < 256)]
    omega
  have hneg : ¬ ((n : Int) < 0) := by omega
  unfold ScriptNum.encode
  rw [Int.natAbs_natCast, ScriptNum.magnitude_of_lt h0 (by omega)]
  simp only [List.getLast?_singleton, hand, ne_eq, not_true_eq_false, hneg, if_false]

/-- Minus one is written as the byte `0x81`. -/
theorem ScriptNum.encode_neg_one : ScriptNum.encode (-1) = [0x81] := by
  simp [ScriptNum.encode, ScriptNum.magnitude_of_lt (by decide : 1 ≠ 0) (by decide : 1 < 256)]
  decide

namespace Interpreter

variable {ctx : Spending} {m m' : Machine}

/-! ## Runs token by token -/

/-- Running two lists of tokens runs the first, then the second on the machine it leaves. -/
theorem runTokens_append (ctx : Spending) (m : Machine) (ts us : List Token) :
    runTokens ctx m (ts ++ us) = runTokens ctx m ts >>= fun m => runTokens ctx m us := by
  induction ts generalizing m with
  | nil => rfl
  | cons t ts ih =>
    simp only [List.cons_append, runTokens]
    cases step ctx m t with
    | error e => rfl
    | ok m1 => exact ih m1

/-- A token that steps hands the tokens after it the machine it leaves. -/
theorem runTokens_cons_of_step {t : Token} (h : step ctx m t = .ok m') (ts : List Token) :
    runTokens ctx m (t :: ts) = runTokens ctx m' ts := by
  simp only [runTokens, h, bind, Except.bind]

/-- Tokens that run hand the tokens after them the machine they leave. -/
theorem runTokens_append_of_ok {ts : List Token} (h : runTokens ctx m ts = .ok m')
    (us : List Token) : runTokens ctx m (ts ++ us) = runTokens ctx m' us := by
  rw [runTokens_append, h]
  rfl

/-- A token that runs is not refused wherever it stands. -/
theorem step_refusedAnywhere {t : Token} (h : step ctx m t = .ok m') :
    Opcode.refusedAnywhere t.opcode = false := by
  unfold step at h
  by_cases hd : Opcode.isDisabled t.opcode = true
  · simp [hd, throw, throwThe, MonadExceptOf.throw, bind, Except.bind] at h
  · by_cases hv : t.opcode = Opcode.opVerIf ∨ t.opcode = Opcode.opVerNotIf
    · simp [hd, hv, throw, throwThe, MonadExceptOf.throw, bind, Except.bind] at h
    · simp only [Opcode.refusedAnywhere, Bool.or_eq_false_iff, decide_eq_false_iff_not]
      exact ⟨⟨by simpa using hd, fun h => hv (.inl h)⟩, fun h => hv (.inr h)⟩

/-- A run that succeeds meets no token refused wherever it stands. -/
theorem runTokens_refusedAnywhere {ts : List Token} (h : runTokens ctx m ts = .ok m') :
    ∀ t ∈ ts, Opcode.refusedAnywhere t.opcode = false := by
  induction ts generalizing m with
  | nil => simp
  | cons t ts ih =>
    simp only [runTokens, bind, Except.bind] at h
    cases hs : step ctx m t with
    | error e => rw [hs] at h; cases h
    | ok m1 =>
      rw [hs] at h
      intro u hu
      rcases List.mem_cons.1 hu with rfl | hu
      · exact step_refusedAnywhere hs
      · exact ih h u hu

/-- No script that holds an opcode refused wherever it stands runs, whatever its stack. -/
theorem runScript_holdsRefusedOpcode {stack r : Stack} {bs : Bytes}
    (h : runScript ctx stack bs = .ok r) : Script.holdsRefusedOpcode bs = false := by
  unfold runScript at h
  unfold Script.holdsRefusedOpcode
  cases ht : Script.tokens bs with
  | error e => rfl
  | ok ts =>
    simp only [ht, Except.mapError_ok, bind, Except.bind] at h
    cases hr : runTokens ctx { stack := stack, script := bs } ts with
    | error e => rw [hr] at h; cases h
    | ok m1 =>
      simp only [List.any_eq_false]
      intro t ht' hrefused
      rw [runTokens_refusedAnywhere hr t ht'] at hrefused
      cases hrefused

/-! ## Pushes -/

/-- An opcode up to `OP_16` is neither refused, nor counted, nor a conditional. -/
theorem push_opcode_facts {op : UInt8} (hp : op ≤ Opcode.op16) :
    Opcode.isDisabled op = false ∧ ¬(op = Opcode.opVerIf ∨ op = Opcode.opVerNotIf) ∧
      ¬(op > Opcode.op16) ∧
      ¬(op = Opcode.opIf ∨ op = Opcode.opNotIf ∨ op = Opcode.opElse ∨ op = Opcode.opEndIf) := by
  have hp' : op.toNat ≤ 0x60 := by simpa [UInt8.le_iff_toNat_le, Opcode.op16] using hp
  refine ⟨?_, ?_, ?_, ?_⟩
  · simp only [Opcode.isDisabled, List.contains_eq_mem, decide_eq_false_iff_not, List.mem_cons,
      List.not_mem_nil, ← UInt8.toNat_inj, UInt8.reduceToNat, or_false]
    omega
  · simp only [← UInt8.toNat_inj, Opcode.opVerIf, Opcode.opVerNotIf, UInt8.reduceToNat]
    omega
  · simp only [gt_iff_lt, UInt8.lt_iff_toNat_lt, Opcode.op16, UInt8.reduceToNat]
    omega
  · simp only [← UInt8.toNat_inj, Opcode.opIf, Opcode.opNotIf, Opcode.opElse, Opcode.opEndIf,
      UInt8.reduceToNat]
    omega

/-- A push opcode is refused, or runs exactly where its arm runs, leaving the conditionals and
the operation count as they are. -/
theorem step_of_push {t : Token} (hp : t.opcode ≤ Opcode.op16) (h : step ctx m t = .ok m') :
    (m.executing = false ∧ m' = m) ∨ (m.executing = true ∧ run ctx m t = .ok m') := by
  obtain ⟨hdis, hver, hgt, hcond⟩ := push_opcode_facts hp
  unfold step at h
  simp only [hdis, hver, hgt, hcond, if_false, Bool.false_eq_true, decide_false,
    Bool.not_false, Bool.and_true, bind, Except.bind, pure, Except.pure] at h
  cases hex : m.executing
  · left
    simp [hex, throw, throwThe, MonadExceptOf.throw] at h
    split at h
    · cases h
    · split at h
      · cases h
      · exact ⟨rfl, (Except.ok.inj h).symm⟩
  · right
    simp [hex, throw, throwThe, MonadExceptOf.throw] at h
    refine ⟨rfl, ?_⟩
    -- whatever checks come first, the result is the one `run` gives
    repeat' split at h
    all_goals
      cases h
      try assumption

/-- The shortest push of a data element pushes the element; the single zero byte is written as
`OP_0` and so pushed empty. -/
theorem run_dataToken (ctx : Spending) (m : Machine) {d : Bytes} (hd : d ≠ [0]) :
    run ctx m (Push.dataToken d) = .ok (m.push d) := by
  match d with
  | [] => rfl
  | [b] =>
    have hb0 : b ≠ 0 := fun h => hd (by rw [h])
    by_cases h16 : b ≤ 16
    · -- a small-number opcode pushes its number
      have hb : b.toNat ≤ 16 := by simpa [UInt8.le_iff_toNat_le] using h16
      have hb1 : b.toNat ≠ 0 := fun h => hb0 (UInt8.toNat_inj.1 (by simpa using h))
      have hv : (Opcode.op1 - 1 + b).toNat = 0x50 + b.toNat := by
        simp [Opcode.op1, UInt8.toNat_add]
        omega
      simp only [Push.dataToken, hb0, h16, if_false, if_true, run, Token.opcode, hv]
      rw [if_neg (by omega), if_neg (by omega), if_pos (by omega)]
      simp [pure, Except.pure, ScriptNum.encode_of_lt hb1 (by omega : b.toNat < 128)]
    · by_cases hneg : b = 0x81
      · subst hneg
        have hrun : run ctx m (.op Opcode.op1Negate) = .ok (m.push (ScriptNum.encode (-1))) :=
          rfl
        simp only [Push.dataToken, hb0, h16, if_false, if_true]
        rw [hrun, ScriptNum.encode_neg_one]
      · simp only [Push.dataToken, hb0, h16, hneg, if_false]
        rfl
  | x :: y :: tl =>
    rw [Push.dataToken_long (by simp)]
    split <;> try split <;> try split
    all_goals rfl

/-- The shortest push of an element keeps the conditionals as they are, and where it runs it
pushes the element. -/
theorem step_dataToken {d : Bytes} (hd : d ≠ [0]) (h : step ctx m (Push.dataToken d) = .ok m') :
    m'.branches = m.branches ∧ (m.executing = true → m'.stack = d :: m.stack) := by
  rcases step_of_push (Push.dataToken_opcode_le d) h with ⟨hex, rfl⟩ | ⟨hex, hrun⟩
  · exact ⟨rfl, fun h => by rw [hex] at h; cases h⟩
  · rw [run_dataToken ctx m hd] at hrun
    cases hrun
    exact ⟨rfl, fun _ => rfl⟩

/-- A script that ends with the shortest push of an element and runs leaves that element on
top: the script ends outside every conditional, so its last push ran. -/
theorem runScript_last_push {stack r : Stack} {bs d : Bytes} {ts : List Token} (hd : d ≠ [0])
    (ht : Script.tokens bs = .ok (ts ++ [Push.dataToken d]))
    (h : runScript ctx stack bs = .ok r) : ∃ r', r = d :: r' := by
  unfold runScript at h
  simp only [ht, Except.mapError_ok, bind, Except.bind, runTokens_append] at h
  cases h1 : runTokens ctx { stack := stack, script := bs } ts with
  | error e => simp [h1] at h
  | ok m1 =>
    cases h2 : step ctx m1 (Push.dataToken d) with
    | error e => simp [h1, h2, runTokens, bind, Except.bind] at h
    | ok m2 =>
      simp only [h1, h2, runTokens, bind, Except.bind, throw, throwThe, MonadExceptOf.throw, pure,
        Except.pure] at h
      obtain ⟨hbr, hstack⟩ := step_dataToken hd h2
      split at h
      · cases h
      · rename_i hempty
        have hnil : m2.branches = [] := by simpa using hempty
        have hex : m1.executing = true := by simp [Machine.executing, ← hbr, hnil]
        cases h
        exact ⟨m1.stack, hstack hex⟩

end Interpreter

/-! ## Checking an input that pays to a script hash -/

/-- A pay-to-script-hash script starts with `OP_HASH160` and a push of 20 bytes. -/
theorem Script.eq_of_isPayToScriptHash {bs : Bytes} (h : Script.isPayToScriptHash bs = true) :
    ∃ rest, bs = 0xa9 :: 0x14 :: rest := by
  unfold Script.isPayToScriptHash at h
  split at h
  · exact ⟨_, rfl⟩
  · cases h

/-- An input that passes its check against an output paying to a script hash either has an
empty unlocking script, or that script runs, and the item it leaves on top, when it is not
empty, runs as the redeem script on the rest. -/
theorem Transaction.checkInput_p2sh {tx : Transaction} {k : Nat} {pk : Bytes}
    (hp : Script.isPayToScriptHash pk = true) (hk : k < tx.inputs.length)
    (h : tx.checkInput k pk = .ok ()) :
    (tx.inputs.get ⟨k, hk⟩).sigScript = [] ∨
      ∃ afterSig,
        Interpreter.runScript ⟨tx, k⟩ [] (tx.inputs.get ⟨k, hk⟩).sigScript =
          .ok afterSig ∧
        ∀ redeem rest, afterSig = redeem :: rest → redeem = [] ∨
          ∃ st, Interpreter.runScript ⟨tx, k⟩ rest redeem = .ok st := by
  obtain ⟨body, hbody⟩ := Script.eq_of_isPayToScriptHash hp
  -- an output paying to a script hash is no witness program
  have hwit : Script.witnessProgram? pk = none := by
    rw [hbody]
    simp [Script.witnessProgram?, Script.isCountOp, Opcode.op0, Opcode.op1, Opcode.op16]
  unfold Transaction.checkInput at h
  rw [dif_pos ⟨by omega, by simpa using hk⟩] at h
  simp only [Int.toNat_natCast, hp] at h
  generalize (tx.inputs.get ⟨k, hk⟩).sigScript = sig at h ⊢
  simp only [throw, throwThe, MonadExceptOf.throw, bind, Except.bind, pure, Except.pure,
    List.forIn_cons, List.forIn_nil, hwit, Option.isSome_none, Bool.false_eq_true, false_and,
    true_and, if_false, if_true] at h
  by_cases hs0 : sig = []
  · exact .inl hs0
  right
  have hs : sig.isEmpty = false := List.isEmpty_eq_false_iff.2 hs0
  cases hrs : Interpreter.runScript ⟨tx, k⟩ [] sig with
  | error e =>
    -- once the unlocking script fails, every way through the check fails
    simp only [hs, hrs, Except.mapError_error, Bool.false_eq_true, if_false] at h
    exfalso
    repeat' split at h
    all_goals cases h
  | ok afterSig =>
    refine ⟨afterSig, rfl, fun redeem rest hcons => ?_⟩
    by_cases hr0 : redeem = []
    · exact .inl hr0
    right
    cases hrr : Interpreter.runScript ⟨tx, k⟩ rest redeem with
    | ok st => exact ⟨st, rfl⟩
    | error e =>
      -- the redeem script runs last, so its failure is the check's
      have hr : redeem.isEmpty = false := List.isEmpty_eq_false_iff.2 hr0
      subst hcons
      simp only [hs, hr, hrs, hrr, Except.mapError_ok, Except.mapError_error, Bool.false_eq_true,
        if_false] at h
      exfalso
      repeat' split at h
      all_goals cases h

end BranchLock
