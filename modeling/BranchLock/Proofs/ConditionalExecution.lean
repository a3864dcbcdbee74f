import BranchLock.Proofs.ConditionalRouting
import BranchLock.Proofs.InterpreterRuns
import BranchLock.Branch.Set

/-!
# Running a combined script with the decisions of a branch

`ConditionalRouting` walks the conditionals of a combined script in the abstract. This module
runs the interpreter itself over them. The interpreter counts every opcode above `OP_16`
against its limit of 201 in arms that do not run too, and it checks the size of every pushed
element and refuses some opcodes there as well; everything else in an arm that does not run
is passed over.

* One step lemma per kind of token: an opcode above `OP_16` that runs
  (`Interpreter.step_of_counted`), and a token passed over in an arm that does not run
  (`Interpreter.step_skip`); from the first, the steps of `OP_IF`, `OP_ELSE` and `OP_ENDIF`.
* A tree of conditionals entered where nothing runs is passed over whole and only counts its
  opcodes (`Interpreter.runTokens_skipped`).
* The left-leaning tree entered where everything runs, with the decisions of branch `i` on the
  stack above `s₀`, pops them and runs branch `i` alone: whatever branch `i` makes of `s₀` from
  any such machine, the whole tree makes of the stack (`Interpreter.runTokens_leftLeaning`).
* For a set whose branch scripts read completely and hold no conditional or refused opcode,
  within 520 bytes and 201 counted opcodes, the combined script run with the decisions of
  branch `i` above `s₀` leaves what the branch's own tokens leave (`BranchSet.runScript_script`).
-/

namespace BranchLock

/-! ## Counting and passing over tokens -/

/-- Whether the interpreter counts a token against its operation limit: every opcode above
`OP_16`, wherever it stands. -/
def Token.counted (t : Token) : Bool := decide (t.opcode > Opcode.op16)

/-- The number of opcodes of a script the interpreter counts against its limit, in arms that do
not run too. The script is read up to its first malformed push. -/
def Script.opCount (bs : Bytes) : Nat := (Script.parse bs).1.countP Token.counted

/-- Whether a token can stand in an arm that does not run: it is no conditional opcode and no
opcode refused wherever it stands, and it carries at most 520 bytes. -/
def Token.skippable (t : Token) : Bool :=
  !Opcode.isConditional t.opcode && !Opcode.refusedAnywhere t.opcode &&
    decide ((t.data?.getD []).length ≤ maxElementSize)

/-- What `OP_ELSE` makes of the innermost conditional: the arm that ran ends and the other one
runs, and a conditional that is skipped whole stays skipped. -/
def Branching.toggle : Branching → Branching
  | .taken => .notTaken
  | .notTaken => .taken
  | .skipped => .skipped

/-- The three conditional opcodes of a combined script are counted. -/
theorem Token.counted_conditional :
    (Token.op Opcode.opIf).counted = true ∧ (Token.op Opcode.opElse).counted = true ∧
      (Token.op Opcode.opEndIf).counted = true := by
  decide

/-- A conditional of a combined script counts its three opcodes and those of its arms. -/
theorem countP_tokens_cond (tok : Nat → List Token) (a b : Nesting) :
    ((Nesting.cond a b).tokens tok).countP Token.counted =
      (a.tokens tok).countP Token.counted + (b.tokens tok).countP Token.counted + 3 := by
  obtain ⟨hif, helse, hendif⟩ := Token.counted_conditional
  simp only [Nesting.tokens, List.countP_cons, List.countP_append, List.countP_nil, hif, helse,
    hendif, if_true]
  omega

/-- One more branch adds its opcodes and those of one more conditional. -/
theorem countP_tokens_leftLeaning_succ (tok : Nat → List Token) (k : Nat) :
    ((Nesting.leftLeaning (k + 1)).tokens tok).countP Token.counted =
      ((Nesting.leftLeaning k).tokens tok).countP Token.counted +
        (tok (k + 1)).countP Token.counted + 3 :=
  countP_tokens_cond tok _ _

/-- A left-leaning tree of `k` conditionals counts at least their `3k` opcodes. -/
theorem countP_tokens_leftLeaning_ge (tok : Nat → List Token) (k : Nat) :
    3 * k ≤ ((Nesting.leftLeaning k).tokens tok).countP Token.counted := by
  induction k with
  | zero => exact Nat.zero_le _
  | succ k ih =>
    rw [countP_tokens_leftLeaning_succ]
    omega

/-- Every token of a leaf of a left-leaning tree is a token of the tree. -/
theorem mem_tokens_leftLeaning {tok : Nat → List Token} {k j : Nat} (hj : j ≤ k) {t : Token}
    (ht : t ∈ tok j) : t ∈ (Nesting.leftLeaning k).tokens tok := by
  induction k with
  | zero =>
    obtain rfl : j = 0 := by omega
    exact ht
  | succ k ih =>
    rw [Nesting.tokens_leftLeaning_succ]
    by_cases hjk : j ≤ k
    · simp [ih hjk]
    · obtain rfl : j = k + 1 := by omega
      simp [ht]

/-- A decision of a path is read back from the item it is pushed as. -/
@[simp] theorem Bytes.asBool_ofBool (b : Bool) : (Bytes.ofBool b).asBool = b := by
  cases b <;> rfl

namespace Interpreter

variable {ctx : Spending} {m m' : Machine}

/-! ## Single steps -/

/-- An opcode above `OP_16` that is not refused, where it runs (or, for a conditional, anywhere):
it is counted, then run, then the stacks are checked. -/
theorem step_of_counted {t : Token} (hgt : t.opcode > Opcode.op16)
    (hr : Opcode.refusedAnywhere t.opcode = false) (hops : m.ops + 1 ≤ 201)
    (hrun : m.executing = true ∨ (t.opcode = Opcode.opIf ∨ t.opcode = Opcode.opNotIf ∨
      t.opcode = Opcode.opElse ∨ t.opcode = Opcode.opEndIf))
    (h : run ctx { m with ops := m.ops + 1 } t = .ok m')
    (hdepth : m'.stack.length + m'.alt.length ≤ 1000) :
    step ctx m t = .ok m' := by
  simp only [Opcode.refusedAnywhere, Bool.or_eq_false_iff, decide_eq_false_iff_not] at hr
  -- an opcode above `OP_16` is no push, so its form is not checked
  have hpush : ¬ (t.opcode ≤ Opcode.pushData4) := by
    simp only [gt_iff_lt, UInt8.lt_iff_toNat_lt, Opcode.op16, UInt8.reduceToNat] at hgt
    simp only [UInt8.le_iff_toNat_le, Opcode.pushData4, UInt8.reduceToNat]
    omega
  have hex : ({ m with ops := m.ops + 1 } : Machine).executing = m.executing := rfl
  have hops' : ¬(201 < m.ops + 1) := by omega
  have hdepth' : ¬(1000 < m'.stack.length + m'.alt.length) := by omega
  unfold step
  rcases hrun with hex' | hcond
  · simp [hr.1.1, hr.1.2, hr.2, hgt, hops', hpush, hex', hex, h, hdepth', bind, Except.bind,
      pure, Except.pure]
  · simp [hr.1.1, hr.1.2, hr.2, hgt, hops', hpush, hcond, hex, h, hdepth', bind, Except.bind,
      pure, Except.pure]

/-- In an arm that does not run, a token that can stand there is only counted. -/
theorem step_skip {t : Token} (s a : Stack) (bs : List Branching) (o : Nat) (sc : Bytes)
    (hex : (Machine.mk s a bs o sc).executing = false) (ht : t.skippable = true)
    (hops : o + (if t.counted then 1 else 0) ≤ 201) (hdepth : s.length + a.length ≤ 1000) :
    step ctx ⟨s, a, bs, o, sc⟩ t = .ok ⟨s, a, bs, o + if t.counted then 1 else 0, sc⟩ := by
  simp only [Token.skippable, Opcode.refusedAnywhere, Opcode.isConditional, Bool.and_eq_true,
    Bool.not_eq_true', Bool.or_eq_false_iff, decide_eq_false_iff_not, decide_eq_true_eq] at ht
  have hdepth' : ¬(1000 < s.length + a.length) := by omega
  have hex1 : (Machine.mk s a bs (o + 1) sc).executing = false := hex
  unfold step
  by_cases hc : t.opcode > Opcode.op16
  · have hc' : t.counted = true := by simp [Token.counted, hc]
    simp only [hc', if_true] at hops ⊢
    have hops' : ¬(201 < o + 1) := by omega
    simp [ht, hc, hops', hex1, hdepth', bind, Except.bind, pure, Except.pure]
  · have hc' : t.counted = false := by simp [Token.counted, hc]
    simp only [hc'] at hops ⊢
    simp [ht, hc, hex, hdepth', bind, Except.bind, pure, Except.pure]

/-- Where it runs, `OP_IF` pops its decision and opens an arm that runs exactly when it is
true. -/
theorem step_if_run (v : Bytes) (s a : Stack) (bs : List Branching) (o : Nat) (sc : Bytes)
    (hex : (Machine.mk (v :: s) a bs o sc).executing = true) (hops : o + 1 ≤ 201)
    (hdepth : s.length + a.length ≤ 1000) :
    step ctx ⟨v :: s, a, bs, o, sc⟩ (.op Opcode.opIf) =
      .ok ⟨s, a, (if v.asBool then .taken else .notTaken) :: bs, o + 1, sc⟩ :=
  step_of_counted (by decide) (by decide) hops (.inl hex)
    (by
      have hex1 : (Machine.mk (v :: s) a bs (o + 1) sc).executing = true := hex
      simp only [run, Token.opcode, Opcode.opIf, hex1]
      simp [Stack.popBool, Stack.pop, Stack.nip, bind, Except.bind, pure, Except.pure]) hdepth

/-- Where nothing runs, `OP_IF` opens a conditional skipped whole. -/
theorem step_if_skip (s a : Stack) (bs : List Branching) (o : Nat) (sc : Bytes)
    (hex : (Machine.mk s a bs o sc).executing = false) (hops : o + 1 ≤ 201)
    (hdepth : s.length + a.length ≤ 1000) :
    step ctx ⟨s, a, bs, o, sc⟩ (.op Opcode.opIf) = .ok ⟨s, a, .skipped :: bs, o + 1, sc⟩ :=
  step_of_counted (by decide) (by decide) hops (.inr (.inl rfl))
    (by
      have hex1 : (Machine.mk s a bs (o + 1) sc).executing = false := hex
      simp [run, Token.opcode, Opcode.opIf, hex1, pure, Except.pure]) hdepth

/-- `OP_ELSE` toggles the innermost conditional. -/
theorem step_else (s a : Stack) (b : Branching) (bs : List Branching) (o : Nat) (sc : Bytes)
    (hops : o + 1 ≤ 201) (hdepth : s.length + a.length ≤ 1000) :
    step ctx ⟨s, a, b :: bs, o, sc⟩ (.op Opcode.opElse) = .ok ⟨s, a, b.toggle :: bs, o + 1, sc⟩ :=
  step_of_counted (by decide) (by decide) hops (.inr (.inr (.inr (.inl rfl))))
    (by cases b <;> simp [run, Token.opcode, Opcode.opElse, Branching.toggle, pure, Except.pure])
    hdepth

/-- `OP_ENDIF` closes the innermost conditional. -/
theorem step_endIf (s a : Stack) (b : Branching) (bs : List Branching) (o : Nat) (sc : Bytes)
    (hops : o + 1 ≤ 201) (hdepth : s.length + a.length ≤ 1000) :
    step ctx ⟨s, a, b :: bs, o, sc⟩ (.op Opcode.opEndIf) = .ok ⟨s, a, bs, o + 1, sc⟩ :=
  step_of_counted (by decide) (by decide) hops (.inr (.inr (.inr (.inr rfl))))
    (by simp [run, Token.opcode, Opcode.opEndIf, pure, Except.pure]) hdepth

/-! ## Arms that do not run -/

/-- In an arm that does not run, tokens that can stand there are only counted. -/
theorem runTokens_skip {ts : List Token} (s a : Stack) (bs : List Branching) (o : Nat) (sc : Bytes)
    (hex : (Machine.mk s a bs o sc).executing = false) (hts : ∀ t ∈ ts, t.skippable = true)
    (hops : o + ts.countP Token.counted ≤ 201) (hdepth : s.length + a.length ≤ 1000) :
    runTokens ctx ⟨s, a, bs, o, sc⟩ ts = .ok ⟨s, a, bs, o + ts.countP Token.counted, sc⟩ := by
  induction ts generalizing o with
  | nil => rfl
  | cons t ts ih =>
    rw [List.countP_cons] at hops ⊢
    rw [runTokens_cons_of_step
        (step_skip s a bs o sc hex (hts t List.mem_cons_self) (by omega) hdepth),
      ih (o + if t.counted then 1 else 0) hex (fun u hu => hts u (List.mem_cons_of_mem t hu))
        (by omega)]
    simp only [Except.ok.injEq, Machine.mk.injEq, true_and, and_true]
    omega

variable {tok : Nat → List Token}

/-- **A tree passed over.** Entered where nothing runs, the tokens of a tree whose leaves can
stand there are passed over whole: the interpreter only counts their opcodes. -/
theorem runTokens_skipped (htok : ∀ j, ∀ t ∈ tok j, t.skippable = true) (tr : Nesting)
    (s a : Stack) (bs : List Branching) (o : Nat) (sc : Bytes)
    (hex : (Machine.mk s a bs o sc).executing = false)
    (hops : o + (tr.tokens tok).countP Token.counted ≤ 201) (hdepth : s.length + a.length ≤ 1000) :
    runTokens ctx ⟨s, a, bs, o, sc⟩ (tr.tokens tok) =
      .ok ⟨s, a, bs, o + (tr.tokens tok).countP Token.counted, sc⟩ := by
  induction tr generalizing bs o with
  | leaf j => exact runTokens_skip s a bs o sc hex (htok j) hops hdepth
  | cond l r ihl ihr =>
    rw [countP_tokens_cond] at hops ⊢
    -- the conditional is skipped whole: its `OP_ELSE` keeps it skipped
    rw [Nesting.tokens, runTokens_cons_of_step (step_if_skip s a bs o sc hex (by omega) hdepth),
      runTokens_append_of_ok (ihl (.skipped :: bs) (o + 1) rfl (by omega)),
      runTokens_cons_of_step (step_else _ _ _ _ _ _ (by omega) hdepth)]
    simp only [Branching.toggle]
    rw [runTokens_append_of_ok (ihr (.skipped :: bs) _ rfl (by omega)),
      runTokens_cons_of_step (step_endIf _ _ _ _ _ _ (by omega) hdepth)]
    simp only [runTokens, Except.ok.injEq, Machine.mk.injEq, true_and, and_true]
    omega

/-! ## The left-leaning tree with the decisions of a branch -/

/-- The tokens `ts` take the stack `s₀` to `s₁`, counting their opcodes, from every machine
outside conditionals that do not run, with the empty alternate stack and the running script
`script`. -/
def RunsFrom (ctx : Spending) (script : Bytes) (ts : List Token) (s₀ s₁ : Stack) : Prop :=
  ∀ m : Machine, m.executing = true → m.stack = s₀ → m.alt = [] → m.script = script →
    m.ops + ts.countP Token.counted ≤ 201 →
    runTokens ctx m ts = .ok { m with stack := s₁, ops := m.ops + ts.countP Token.counted }

/-- **The run of the left-leaning tree.** Entered where everything runs, with the decisions of
branch `i` above `s₀`, the tokens of the left-leaning tree pop the decisions outermost first,
pass over every other branch and run branch `i` alone: the tree makes of the stack what branch
`i` makes of `s₀`, and counts all its opcodes. The induction is on the number of conditionals;
the newest branch is the false arm of the outermost one. -/
theorem runTokens_leftLeaning (htok : ∀ j, ∀ t ∈ tok j, t.skippable = true) {script : Bytes}
    {s₀ s₁ : Stack} {k i : Nat} (hi : i ≤ k) (hleaf : RunsFrom ctx script (tok i) s₀ s₁)
    (hs₁ : s₁.length ≤ 1000) (bs : List Branching) (ops : Nat)
    (hex : (Machine.mk (((Nesting.leftLeaning k).path i).map Bytes.ofBool ++ s₀) [] bs ops
      script).executing = true)
    (hops : ops + ((Nesting.leftLeaning k).tokens tok).countP Token.counted ≤ 201)
    (hdepth : ((Nesting.leftLeaning k).path i).length + s₀.length ≤ 1000) :
    runTokens ctx ⟨((Nesting.leftLeaning k).path i).map Bytes.ofBool ++ s₀, [], bs, ops, script⟩
        ((Nesting.leftLeaning k).tokens tok) =
      .ok ⟨s₁, [], bs, ops + ((Nesting.leftLeaning k).tokens tok).countP Token.counted, script⟩ := by
  induction k generalizing i bs ops with
  | zero =>
    obtain rfl : i = 0 := by omega
    exact hleaf _ hex rfl rfl rfl hops
  | succ k ih =>
    rw [countP_tokens_leftLeaning_succ] at hops ⊢
    rw [Nesting.tokens_leftLeaning_succ]
    by_cases hik : i ≤ k
    · -- branch `i` lies in the true arm; the newest branch, in the false arm, is passed over
      rw [Nesting.path_leftLeaning_succ_of_le hik] at hdepth hex ⊢
      simp only [List.length_cons, List.map_cons, List.cons_append] at hdepth hex ⊢
      rw [runTokens_cons_of_step (step_if_run _ _ _ _ _ _ hex (by omega) (by simp; omega))]
      simp only [Bytes.asBool_ofBool, if_true]
      rw [runTokens_append_of_ok
          (ih hik hleaf (.taken :: bs) (ops + 1) rfl (by omega) (by omega)),
        runTokens_cons_of_step (step_else _ _ _ _ _ _ (by omega) (by simp; omega))]
      simp only [Branching.toggle]
      rw [runTokens_append_of_ok
          (runTokens_skip _ _ _ _ _ rfl (htok (k + 1)) (by omega) (by simp; omega)),
        runTokens_cons_of_step (step_endIf _ _ _ _ _ _ (by omega) (by simp; omega))]
      simp only [runTokens, Except.ok.injEq, Machine.mk.injEq, true_and, and_true]
      omega
    · -- branch `i` is the newest one; the whole true arm is passed over
      obtain rfl : i = k + 1 := by omega
      rw [Nesting.path_leftLeaning_succ_self] at hdepth hex ⊢
      simp only [List.length_cons, List.length_nil, List.map_cons, List.map_nil,
        List.cons_append, List.nil_append] at hdepth hex ⊢
      rw [runTokens_cons_of_step (step_if_run _ _ _ _ _ _ hex (by omega) (by simp; omega))]
      simp only [Bytes.asBool_ofBool, Bool.false_eq_true, if_false]
      rw [runTokens_append_of_ok
          (runTokens_skipped htok _ _ _ _ _ _ rfl (by omega) (by simp; omega)),
        runTokens_cons_of_step (step_else _ _ _ _ _ _ (by omega) (by simp; omega))]
      simp only [Branching.toggle]
      rw [runTokens_append_of_ok (hleaf _ rfl rfl rfl rfl (by simp only; omega)),
        runTokens_cons_of_step (step_endIf _ _ _ _ _ _ (by simp only; omega) (by simp; omega))]
      simp only [runTokens, Except.ok.injEq, Machine.mk.injEq, true_and, and_true]
      omega

end Interpreter

/-! ## The combined script of a set -/

namespace BranchSet

/-- Branch scripts that read completely and hold no conditional opcode and no opcode refused
wherever it stands. -/
def PlainBranches (S : BranchSet) : Prop :=
  ∀ b ∈ S.branches, ∃ ts, Script.tokens b.script = .ok ts ∧
    ∀ t ∈ ts, Opcode.isConditional t.opcode = false ∧ Opcode.refusedAnywhere t.opcode = false

/-- The tokens of a branch of a set, by index; an index past the last branch has none. -/
def branchTokens (S : BranchSet) (j : Nat) : List Token :=
  (Script.parse ((S.branches.map (·.script)).getD j [])).1

/-- The combined script of a set whose branch scripts read completely reads as the tokens of its
nesting tree. -/
theorem parse_script {S : BranchSet} (hplain : S.PlainBranches) :
    Script.parse S.script = (S.shape.nesting.tokens S.branchTokens, none) := by
  have hs : ∀ s ∈ S.branches.map (·.script), (Script.parse s).2 = none := by
    intro s hs
    obtain ⟨b, hb, rfl⟩ := List.mem_map.1 hs
    obtain ⟨ts, hts, -⟩ := hplain b hb
    simp [Script.tokens_eq_ok_iff.1 hts]
  rw [(Shape.fold_eq_ok S.folded).2]
  exact Nesting.parse_pushes hs _

/-- In a set of plain branches within the element limit, every token of every branch can stand
in an arm that does not run. -/
theorem skippable_branchTokens {S : BranchSet} (hplain : S.PlainBranches)
    (hsize : S.script.length ≤ maxElementSize) (j : Nat) :
    ∀ t ∈ S.branchTokens j, t.skippable = true := by
  intro t ht
  rw [branchTokens, List.getD_eq_getElem?_getD] at ht
  cases hj : (S.branches.map (·.script))[j]? with
  | none => simp [hj] at ht
  | some s =>
    rw [hj, Option.getD_some] at ht
    obtain ⟨b, hb, rfl⟩ : ∃ b ∈ S.branches, b.script = s := List.mem_map.1 (List.mem_of_getElem? hj)
    obtain ⟨ts, hts, hts'⟩ := hplain b hb
    rw [Script.tokens_eq_ok_iff.1 hts] at ht
    obtain ⟨hcond, hrefused⟩ := hts' t ht
    -- its data lies within the combined script, which holds the branch's tokens
    have hjn : j ≤ S.numBranches - 1 := by
      have := (List.getElem?_eq_some_iff.1 hj).1
      simp only [List.length_map] at this
      simp only [numBranches]
      omega
    have hmem : t ∈ (Script.parse S.script).1 := by
      rw [parse_script hplain, Shape.nesting, S.shape_numBranches]
      apply mem_tokens_leftLeaning hjn
      rw [branchTokens, List.getD_eq_getElem?_getD, hj, Option.getD_some,
        Script.tokens_eq_ok_iff.1 hts]
      exact ht
    have hdata := Script.length_data_le hmem
    simp only [Token.skippable, hcond, hrefused, Bool.not_false, Bool.true_and, decide_eq_true_eq]
    omega

/-- **A branch run through the combined script.** Let a set's branch scripts read completely and
hold no conditional or refused opcode, its combined script be within the element limit and
hold at most 201 counted opcodes. Run on the decisions of branch `i` above a stack `s₀`, the
combined script leaves what the tokens of branch `i` alone make of `s₀`. -/
theorem runScript_script (ctx : Spending) {S : BranchSet} (hplain : S.PlainBranches)
    (hsize : S.script.length ≤ maxElementSize) (hops : Script.opCount S.script ≤ 201)
    {i : Nat} {b : Branch} (hb : S.branches[i]? = some b) {s₀ s₁ : Stack}
    (hleaf : Interpreter.RunsFrom ctx S.script (Script.parse b.script).1 s₀ s₁)
    (hs₁ : s₁.length ≤ 1000) (hdepth : (S.shape.nesting.path i).length + s₀.length ≤ 1000) :
    Interpreter.runScript ctx ((S.shape.nesting.path i).map Bytes.ofBool ++ s₀) S.script =
      .ok s₁ := by
  have hin : i < S.numBranches := (List.getElem?_eq_some_iff.1 hb).1
  have htok : S.branchTokens i = (Script.parse b.script).1 := by
    simp [branchTokens, List.getD_eq_getElem?_getD, hb]
  have hcount : Script.opCount S.script =
      (S.shape.nesting.tokens S.branchTokens).countP Token.counted := by
    rw [Script.opCount, parse_script hplain]
  rw [Shape.nesting, S.shape_numBranches] at hdepth hcount ⊢
  unfold Interpreter.runScript
  rw [Script.tokens_eq_ok_iff.2 (parse_script hplain), Shape.nesting, S.shape_numBranches]
  simp only [Except.mapError_ok, bind, Except.bind]
  rw [Interpreter.runTokens_leftLeaning (skippable_branchTokens hplain hsize) (by omega)
    (htok ▸ hleaf) hs₁ [] 0 rfl (by omega) hdepth]
  rfl

end BranchSet

end BranchLock
