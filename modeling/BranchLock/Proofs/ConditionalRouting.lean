import BranchLock.Branch.Shape
import BranchLock.Proofs.ScriptReading

/-!
# The decisions of a path route a combined script to its branch

The combined script of a shape and the decisions that reach each branch are read off one
nesting tree, by two different traversals: the script by recursion over the tree, the decisions
by a walk from the root that follows the arm whose range covers the branch. This module shows
that they agree: run the conditionals of the combined script the way the interpreter runs them,
with the decisions of branch `i` fed to its `OP_IF`s outermost first, and

* every decision is used and no conditional is left open at the end;
* the tokens of branch `i` run, and no token of any other branch does;
* the tokens of every branch `j` sit under exactly as many conditionals as the path to `j` has
  decisions, so those of branch `i` at the depth of branch `i`.

The branch scripts must read completely and hold no conditional opcode of their own.

The conditionals are walked with a stack of conditions, innermost first: `OP_IF` takes the next
decision only where every enclosing condition holds and pushes false elsewhere, `OP_ELSE`
flips the innermost condition unless an enclosing one is false, and `OP_ENDIF` pops it. Every
other token is recorded with its depth and whether it ran (`CondWalk`).

The route of the proof:

* the bytes of a combined script read as the tokens of the tree, conditionals and branch
  tokens in order (`Nesting.parse_pushes`), because a script that reads completely reads the
  same at the head of a longer one (`Script.parse_append`);
* a walk over the tokens of a subtree whose arm does not run uses no decision and runs nothing
  (`CondWalk.run_tokens_of_not_executing`), and one over the left-leaning tree with the path of
  branch `i` runs exactly branch `i` (`CondWalk.run_tokens_leftLeaning`), by induction on the
  number of conditionals;
* the visits of that walk, read leaf by leaf, are the branches in index order
  (`Nesting.visits_leftLeaning`).

The main statement is `fold_routes_to_path`.
-/

namespace BranchLock

/-! ## The tokens of a combined script -/

namespace Nesting

/-- The tokens of the combined script of a tree, given the tokens of each branch: each
conditional reads as `OP_IF`, its true arm, `OP_ELSE`, its false arm and `OP_ENDIF`. -/
def tokens (tok : Nat → List Token) : Nesting → List Token
  | leaf i => tok i
  | cond a b =>
    .op Opcode.opIf :: (a.tokens tok ++ .op Opcode.opElse :: (b.tokens tok ++ [.op Opcode.opEndIf]))

/-- The bytes of a combined script: each conditional opcode as one byte around its arms. -/
theorem flatMap_encode_pushes_cond (a b : Nesting) (scripts : List Bytes) :
    ((cond a b).pushes scripts).flatMap Push.encode =
      Opcode.opIf :: ((a.pushes scripts).flatMap Push.encode ++
        Opcode.opElse :: ((b.pushes scripts).flatMap Push.encode ++ [Opcode.opEndIf])) := by
  simp [pushes, Push.encode]

/-- A script that is no branch of the list reads as the empty script, completely. -/
theorem parse_getD_snd {scripts : List Bytes}
    (hs : ∀ s ∈ scripts, (Script.parse s).2 = none) (i : Nat) :
    (Script.parse (scripts.getD i [])).2 = none := by
  rw [List.getD_eq_getElem?_getD]
  cases h : scripts[i]? with
  | none => simp
  | some s => exact hs s (List.mem_of_getElem? h)

/-- The combined script of a tree reads completely, as the tokens of the tree, when every
branch script does. -/
theorem parse_pushes {scripts : List Bytes} (hs : ∀ s ∈ scripts, (Script.parse s).2 = none)
    (t : Nesting) :
    Script.parse ((t.pushes scripts).flatMap Push.encode) =
      (t.tokens fun i => (Script.parse (scripts.getD i [])).1, none) := by
  induction t with
  | leaf i =>
    have h := parse_getD_snd hs i
    simp only [pushes, List.flatMap_cons, List.flatMap_nil, List.append_nil, Push.encode, tokens]
    rw [← h]
  | cond a b iha ihb =>
    rw [flatMap_encode_pushes_cond, Script.parse_cons_of_none Opcode.opIf (by decide),
      Script.parse_append iha, Script.parse_cons_of_none Opcode.opElse (by decide),
      Script.parse_append ihb, Script.parse_cons_of_none Opcode.opEndIf (by decide)]
    simp [tokens]

end Nesting

/-! ## Walking the conditionals of a script -/

/-- A token that is not a conditional opcode, as a walk over the conditionals meets it. -/
structure Visit where
  /-- The token. -/
  token : Token
  /-- The number of conditionals around it. -/
  depth : Nat
  /-- Whether it runs. -/
  executed : Bool
  deriving DecidableEq, Repr

/-- The state of a walk over the conditionals of a script whose decisions are given in
advance. -/
structure CondWalk where
  /-- The conditions of the enclosing conditionals, innermost first. -/
  conds : List Bool
  /-- The decisions not yet taken, outermost first. -/
  decisions : List Bool
  /-- The other tokens met so far, in order. -/
  visits : List Visit
  deriving DecidableEq, Repr

namespace CondWalk

/-- Takes one token. `OP_IF` takes the next decision where every enclosing condition holds,
and fails when none is left; elsewhere it opens a false condition. `OP_ELSE` flips the
innermost condition unless an enclosing one is false, and `OP_ENDIF` closes it; both fail with
no conditional open. Every other token is recorded. -/
def step (w : CondWalk) (t : Token) : Option CondWalk :=
  if t.opcode = Opcode.opIf then
    if w.conds.all id then
      match w.decisions with
      | [] => none
      | d :: ds => some ⟨d :: w.conds, ds, w.visits⟩
    else some ⟨false :: w.conds, w.decisions, w.visits⟩
  else if t.opcode = Opcode.opElse then
    match w.conds with
    | [] => none
    | c :: cs => some ⟨(!c && cs.all id) :: cs, w.decisions, w.visits⟩
  else if t.opcode = Opcode.opEndIf then
    match w.conds with
    | [] => none
    | _ :: cs => some ⟨cs, w.decisions, w.visits⟩
  else some ⟨w.conds, w.decisions, w.visits ++ [⟨t, w.conds.length, w.conds.all id⟩]⟩

/-- Takes the tokens in order; `none` once a step fails. -/
def run : CondWalk → List Token → Option CondWalk
  | w, [] => some w
  | w, t :: ts => (w.step t).bind (run · ts)

/-- A walk over no tokens stays where it is. -/
@[simp] theorem run_nil (w : CondWalk) : w.run [] = some w := rfl

/-- A walk takes its first token, then the rest. -/
theorem run_cons (w : CondWalk) (t : Token) (ts : List Token) :
    w.run (t :: ts) = (w.step t).bind (run · ts) := rfl

/-- A walk over two lists of tokens walks the first, then the second. -/
theorem run_append (w : CondWalk) (xs ys : List Token) :
    w.run (xs ++ ys) = (w.run xs).bind (run · ys) := by
  induction xs generalizing w with
  | nil => rfl
  | cons t ts ih =>
    simp only [List.cons_append, run_cons]
    cases w.step t with
    | none => rfl
    | some w' => exact ih w'

/-- Where every enclosing condition holds, `OP_IF` takes the next decision as its condition. -/
theorem step_if_of_all (cs : List Bool) (hcs : cs.all id = true) (d : Bool)
    (ds : List Bool) (vs : List Visit) :
    step ⟨cs, d :: ds, vs⟩ (.op Opcode.opIf) = some ⟨d :: cs, ds, vs⟩ := by
  simp [step, Token.opcode, hcs]

/-- Where an enclosing condition is false, `OP_IF` opens a false condition and takes no
decision. -/
theorem step_if_of_not_all (cs : List Bool) (hcs : cs.all id = false) (ds : List Bool)
    (vs : List Visit) :
    step ⟨cs, ds, vs⟩ (.op Opcode.opIf) = some ⟨false :: cs, ds, vs⟩ := by
  simp [step, Token.opcode, hcs]

/-- `OP_ELSE` flips the innermost condition, unless an enclosing one is false. -/
theorem step_else (c : Bool) (cs ds : List Bool) (vs : List Visit) :
    step ⟨c :: cs, ds, vs⟩ (.op Opcode.opElse) =
      some ⟨(!c && cs.all id) :: cs, ds, vs⟩ := by
  simp [step, Token.opcode, Opcode.opIf, Opcode.opElse]

/-- `OP_ENDIF` closes the innermost condition. -/
theorem step_endIf (c : Bool) (cs ds : List Bool) (vs : List Visit) :
    step ⟨c :: cs, ds, vs⟩ (.op Opcode.opEndIf) = some ⟨cs, ds, vs⟩ := by
  simp [step, Token.opcode, Opcode.opIf, Opcode.opElse, Opcode.opEndIf]

/-- A token that is no conditional opcode is recorded, with the depth and whether it runs. -/
theorem step_of_not_conditional (w : CondWalk) {t : Token}
    (ht : Opcode.isConditional t.opcode = false) :
    w.step t =
      some ⟨w.conds, w.decisions, w.visits ++ [⟨t, w.conds.length, w.conds.all id⟩]⟩ := by
  simp only [Opcode.isConditional, Bool.or_eq_false_iff, decide_eq_false_iff_not] at ht
  simp [step, ht.1.1.1.1.1, ht.1.2, ht.2]

/-- Tokens that are no conditional opcodes are recorded in order, and change nothing else. -/
theorem run_of_not_conditional (cs ds : List Bool) (vs : List Visit) {ts : List Token}
    (hts : ∀ t ∈ ts, Opcode.isConditional t.opcode = false) :
    run ⟨cs, ds, vs⟩ ts =
      some ⟨cs, ds, vs ++ ts.map fun t => ⟨t, cs.length, cs.all id⟩⟩ := by
  induction ts generalizing vs with
  | nil => simp
  | cons t ts ih =>
    rw [run_cons, step_of_not_conditional _ (hts t (by simp))]
    simp only [Option.bind_some]
    rw [ih _ fun t' h' => hts t' (by simp [h'])]
    simp

end CondWalk

/-! ## Walking the conditionals of a combined script -/

namespace Nesting

/-- What a walk records over the tokens of a tree entered at depth `d`, when exactly the
leaves `runs` picks out run: each leaf's tokens, one conditional deeper per level. -/
def visits (tok : Nat → List Token) (runs : Nat → Bool) : Nesting → Nat → List Visit
  | leaf j, d => (tok j).map fun t => ⟨t, d, runs j⟩
  | cond a b, d => a.visits tok runs (d + 1) ++ b.visits tok runs (d + 1)

/-- The left-leaning tree of branches `0‥k` covers exactly the indices up to `k`. -/
theorem covers_leftLeaning (k j : Nat) : (leftLeaning k).covers j = decide (j ≤ k) := by
  simp [covers]

/-- A branch below the newest one is reached through the true arm of the outer conditional. -/
theorem path_leftLeaning_succ_of_le {k j : Nat} (h : j ≤ k) :
    (leftLeaning (k + 1)).path j = true :: (leftLeaning k).path j := by
  simp [leftLeaning, path, covers_leftLeaning, h]

/-- The newest branch is the false arm of the outer conditional. -/
theorem path_leftLeaning_succ_self (k : Nat) :
    (leftLeaning (k + 1)).path (k + 1) = [false] := by
  simp [leftLeaning, path, covers_leftLeaning]

/-- One more branch wraps the tokens of the tree in one more conditional, with the new branch
in its false arm. -/
theorem tokens_leftLeaning_succ (tok : Nat → List Token) (k : Nat) :
    (leftLeaning (k + 1)).tokens tok =
      .op Opcode.opIf :: ((leftLeaning k).tokens tok ++
        .op Opcode.opElse :: (tok (k + 1) ++ [.op Opcode.opEndIf])) := rfl

/-- One more branch records the older branches one conditional deeper, then the new one. -/
theorem visits_leftLeaning_succ (tok : Nat → List Token) (runs : Nat → Bool) (k d : Nat) :
    (leftLeaning (k + 1)).visits tok runs d =
      (leftLeaning k).visits tok runs (d + 1) ++
        (tok (k + 1)).map fun t => ⟨t, d + 1, runs (k + 1)⟩ := rfl

/-- The walk records only the leaves' own tokens, so leaves outside `0‥k` never matter. -/
theorem visits_leftLeaning_congr (tok : Nat → List Token) {runs runs' : Nat → Bool} (k : Nat)
    (h : ∀ j ≤ k, runs j = runs' j) (d : Nat) :
    (leftLeaning k).visits tok runs d = (leftLeaning k).visits tok runs' d := by
  induction k generalizing d with
  | zero => simp [leftLeaning, visits, h 0 (Nat.le_refl 0)]
  | succ k ih =>
    rw [visits_leftLeaning_succ, visits_leftLeaning_succ, h (k + 1) (Nat.le_refl _),
      ih (fun j hj => h j (by omega))]

/-- The visits of the left-leaning tree, branch by branch in index order: branch `j`'s tokens
at the depth of its path. -/
theorem visits_leftLeaning (tok : Nat → List Token) (runs : Nat → Bool) (k d : Nat) :
    (leftLeaning k).visits tok runs d =
      (List.range (k + 1)).flatMap fun j =>
        (tok j).map fun t => ⟨t, d + ((leftLeaning k).path j).length, runs j⟩ := by
  induction k generalizing d with
  | zero => simp [leftLeaning, visits, path]
  | succ k ih =>
    rw [visits_leftLeaning_succ, List.range_succ, ih, List.flatMap_append]
    congr 1
    · -- the older branches sit one conditional deeper than in the smaller tree
      simp only [List.flatMap_def]
      congr 1
      refine List.map_congr_left fun j hj => ?_
      have hjk : j ≤ k := by simp at hj; omega
      have hdepth : d + 1 + ((leftLeaning k).path j).length =
          d + ((leftLeaning k).path j).length + 1 := by omega
      simp only [path_leftLeaning_succ_of_le hjk, List.length_cons, hdepth, Nat.add_assoc]
    · simp [path_leftLeaning_succ_self]

end Nesting

namespace CondWalk

variable {tok : Nat → List Token}

/-- Inside an arm that does not run, the tokens of a tree use no decision, leave the conditions
as they were, and run nothing. -/
theorem run_tokens_of_not_executing
    (htok : ∀ j, ∀ t ∈ tok j, Opcode.isConditional t.opcode = false)
    (t : Nesting) {cs : List Bool} (hcs : cs.all id = false) (ds : List Bool) (vs : List Visit) :
    run ⟨cs, ds, vs⟩ (t.tokens tok) =
      some ⟨cs, ds, vs ++ t.visits tok (fun _ => false) cs.length⟩ := by
  induction t generalizing cs vs with
  | leaf j =>
    rw [Nesting.tokens, run_of_not_conditional cs ds vs (htok j)]
    simp [Nesting.visits, hcs]
  | cond a b iha ihb =>
    have hfalse : (false :: cs).all id = false := rfl
    rw [Nesting.tokens, run_cons, step_if_of_not_all cs hcs, Option.bind_some, run_append,
      iha hfalse, Option.bind_some, run_cons, step_else, Option.bind_some]
    -- the false arm does not run either: an enclosing condition is false
    simp only [Bool.not_false, Bool.true_and, hcs]
    rw [run_append, ihb hfalse, Option.bind_some, run_cons, step_endIf]
    simp [Nesting.visits]

/-- The walk over the left-leaning tree of branches `0‥k`, entered where everything runs, with
the decisions of branch `i` ahead of any others: it uses exactly those decisions, leaves the
conditions as they were, and runs branch `i` alone. -/
theorem run_tokens_leftLeaning
    (htok : ∀ j, ∀ t ∈ tok j, Opcode.isConditional t.opcode = false)
    {k i : Nat} (hi : i ≤ k) {cs : List Bool} (hcs : cs.all id = true) (rest : List Bool)
    (vs : List Visit) :
    run ⟨cs, (Nesting.leftLeaning k).path i ++ rest, vs⟩ ((Nesting.leftLeaning k).tokens tok) =
      some ⟨cs, rest, vs ++ (Nesting.leftLeaning k).visits tok (fun j => decide (j = i))
        cs.length⟩ := by
  induction k generalizing i cs vs with
  | zero =>
    obtain rfl : i = 0 := by omega
    simp only [Nesting.leftLeaning, Nesting.path, List.nil_append, Nesting.tokens]
    rw [run_of_not_conditional cs rest vs (htok 0)]
    simp [Nesting.visits, hcs]
  | succ k ih =>
    have htrue : (true :: cs).all id = true := by simp [hcs]
    have hfalse : (false :: cs).all id = false := rfl
    by_cases hik : i ≤ k
    · -- branch `i` lies in the true arm: the false arm, the newest branch, is skipped
      rw [Nesting.path_leftLeaning_succ_of_le hik, Nesting.tokens_leftLeaning_succ,
        List.cons_append, run_cons, step_if_of_all cs hcs, Option.bind_some, run_append,
        ih hik htrue, Option.bind_some, run_cons, step_else, Option.bind_some]
      simp only [Bool.not_true, Bool.false_and]
      rw [run_append, run_of_not_conditional _ rest _ (htok (k + 1)), Option.bind_some,
        run_cons, step_endIf, Nesting.visits_leftLeaning_succ]
      have hne : decide (k + 1 = i) = false := by simp; omega
      simp [hne]
    · -- branch `i` is the newest one, the false arm: the true arm is skipped
      obtain rfl : i = k + 1 := by omega
      rw [Nesting.path_leftLeaning_succ_self, Nesting.tokens_leftLeaning_succ,
        List.cons_append, List.nil_append, run_cons, step_if_of_all cs hcs, Option.bind_some,
        run_append, run_tokens_of_not_executing htok _ hfalse, Option.bind_some, run_cons,
        step_else, Option.bind_some]
      simp only [Bool.not_false, Bool.true_and, hcs]
      rw [run_append, run_of_not_conditional _ rest _ (htok (k + 1)), Option.bind_some,
        run_cons, step_endIf, Nesting.visits_leftLeaning_succ]
      -- no leaf of the true arm is the newest branch
      have hskip : (Nesting.leftLeaning k).visits tok (fun _ => false) (cs.length + 1) =
          (Nesting.leftLeaning k).visits tok (fun j => decide (j = k + 1)) (cs.length + 1) :=
        Nesting.visits_leftLeaning_congr tok k (fun j hj => by simp; omega) _
      simp only [htrue]
      simpa using hskip

end CondWalk

/-! ## Folding and routing -/

namespace Shape

/-- The shape of a count has that many branches. -/
theorem numBranches_of_ofCount {n : Int} {sh : Shape} (h : ofCount n = .ok sh) :
    (sh.numBranches : Int) = n := by
  unfold ofCount at h
  split at h
  · cases h
    simp only [Int.toNat_of_nonneg (by omega : 0 ≤ n)]
  · cases h

/-- A successful fold is the bytes of the nesting tree, over exactly one script per branch. -/
theorem fold_eq_ok {sh : Shape} {scripts : List Bytes} {c : Bytes}
    (h : sh.fold scripts = .ok c) :
    scripts.length = sh.numBranches ∧ c = (sh.nesting.pushes scripts).flatMap Push.encode := by
  unfold fold at h
  split at h
  · cases h
  · rename_i hlen
    refine ⟨by simpa using hlen, ?_⟩
    cases hb : Push.build (sh.nesting.pushes scripts) with
    | error e => simp [hb] at h
    | ok s =>
      simp only [hb, Except.mapError_ok, Except.ok.injEq] at h
      subst h
      exact Push.build_ok_eq hb

/-- The path of a branch of a shape is the path to its leaf in the nesting tree. -/
theorem path_eq_ok (sh : Shape) {i : Int} (hi : 0 ≤ i ∧ i < sh.numBranches) :
    sh.path i = .ok (sh.nesting.path i.toNat) := by
  simp [path, hi]

/-- The depth of a branch of a shape is the length of its path. -/
theorem depth_eq_ok (sh : Shape) {i : Int} (hi : 0 ≤ i ∧ i < sh.numBranches) :
    sh.depth i = .ok (sh.nesting.path i.toNat).length := by
  simp [depth, path_eq_ok sh hi, Except.map]

end Shape

/-- **Fold and path route to the same branch.** Let a shape of `n` branches fold scripts that
each read completely and hold no conditional opcode. For every branch `i`, the path of `i` is a
list of decisions, the depth of `i` is its length, and the combined script reads completely.
Walking its conditionals with those decisions uses all of them, closes every conditional it
opens, and meets the tokens of the branches in index order: those of branch `j` at the depth
of the path to `j`, run exactly when `j = i`. -/
theorem fold_routes_to_path {n : Int} {sh : Shape} {scripts : List Bytes} {combined : Bytes}
    (hsh : Shape.ofCount n = .ok sh)
    (hread : ∀ s ∈ scripts, ∃ ts, Script.tokens s = .ok ts ∧
      ∀ t ∈ ts, Opcode.isConditional t.opcode = false)
    (hfold : sh.fold scripts = .ok combined) {i : Int} (hi : 0 ≤ i ∧ i < n) :
    ∃ path ts, sh.path i = .ok path ∧ sh.depth i = .ok path.length ∧
      Script.tokens combined = .ok ts ∧
      CondWalk.run ⟨[], path, []⟩ ts =
        some ⟨[], [], (List.range scripts.length).flatMap fun j =>
          (Script.parse (scripts.getD j [])).1.map fun t =>
            ⟨t, (sh.nesting.path j).length, decide (j = i.toNat)⟩⟩ := by
  have hn := Shape.numBranches_of_ofCount hsh
  obtain ⟨hlen, rfl⟩ := Shape.fold_eq_ok hfold
  have hin : 0 ≤ i ∧ i < sh.numBranches := by omega
  have hparse : ∀ s ∈ scripts, (Script.parse s).2 = none := fun s hs => by
    obtain ⟨ts, hts, -⟩ := hread s hs
    simp [Script.tokens_eq_ok_iff.1 hts]
  -- the tokens of each branch: those of its script, or none past the last script
  have htok : ∀ j, ∀ t ∈ (Script.parse (scripts.getD j [])).1,
      Opcode.isConditional t.opcode = false := by
    intro j t ht
    rw [List.getD_eq_getElem?_getD] at ht
    cases hj : scripts[j]? with
    | none => simp [hj] at ht
    | some s =>
      obtain ⟨ts, hts, hplain⟩ := hread s (List.mem_of_getElem? hj)
      rw [hj, Option.getD_some, Script.tokens_eq_ok_iff.1 hts] at ht
      exact hplain t ht
  refine ⟨_, _, sh.path_eq_ok hin, sh.depth_eq_ok hin,
    Script.tokens_eq_ok_iff.2 (Nesting.parse_pushes hparse _), ?_⟩
  have hk : i.toNat ≤ sh.numBranches - 1 := by omega
  have hrun := CondWalk.run_tokens_leftLeaning htok hk
    (show ([] : List Bool).all id = true from rfl) [] []
  rw [List.append_nil] at hrun
  rw [Shape.nesting, hrun, Nesting.visits_leftLeaning,
    show sh.numBranches - 1 + 1 = scripts.length by have := sh.pos; omega]
  simp

/-- The middle one of three branches, the first holding a push of the `OP_IF` byte as data:
the path takes the inner false arm under the outer true arm. -/
theorem fold_routes_to_path_middle_of_three :
    Shape.ofCount 3 = .ok ⟨3, by decide⟩ ∧
    (∀ s ∈ [[0x01, 0x63], [0x76], [0x52]], ∃ ts, Script.tokens s = .ok ts ∧
      ∀ t ∈ ts, Opcode.isConditional t.opcode = false) ∧
    (⟨3, by decide⟩ : Shape).fold [[0x01, 0x63], [0x76], [0x52]] =
      .ok [0x63, 0x63, 0x01, 0x63, 0x67, 0x76, 0x68, 0x67, 0x52, 0x68] ∧
    (0 ≤ (1 : Int) ∧ (1 : Int) < 3) ∧
    ∃ path ts, (⟨3, by decide⟩ : Shape).path 1 = .ok path ∧
      (⟨3, by decide⟩ : Shape).depth 1 = .ok path.length ∧
      Script.tokens [0x63, 0x63, 0x01, 0x63, 0x67, 0x76, 0x68, 0x67, 0x52, 0x68] = .ok ts ∧
      CondWalk.run ⟨[], path, []⟩ ts =
        some ⟨[], [], (List.range 3).flatMap fun j =>
          (Script.parse ([[0x01, 0x63], [0x76], [0x52]].getD j [])).1.map fun t =>
            ⟨t, ((⟨3, by decide⟩ : Shape).nesting.path j).length,
              decide (j = (1 : Int).toNat)⟩⟩ := by
  have hread : ∀ s ∈ ([[0x01, 0x63], [0x76], [0x52]] : List Bytes), ∃ ts,
      Script.tokens s = .ok ts ∧ ∀ t ∈ ts, Opcode.isConditional t.opcode = false := by
    simp only [List.mem_cons, List.not_mem_nil, or_false]
    rintro s (rfl | rfl | rfl)
    · refine ⟨[.push 0x01 [0x63]], ?_, by decide⟩
      rw [Script.tokens_eq_ok_iff, Script.parse.eq_def]
      simp [Token.next, Opcode.dataLength]
    · refine ⟨[.op 0x76], ?_, by decide⟩
      rw [Script.tokens_eq_ok_iff, Script.parse_cons_of_none _ (by decide)]
      simp
    · refine ⟨[.op 0x52], ?_, by decide⟩
      rw [Script.tokens_eq_ok_iff, Script.parse_cons_of_none _ (by decide)]
      simp
  have hsh : Shape.ofCount 3 = .ok ⟨3, by decide⟩ := rfl
  have hfold : (⟨3, by decide⟩ : Shape).fold [[0x01, 0x63], [0x76], [0x52]] =
      .ok [0x63, 0x63, 0x01, 0x63, 0x67, 0x76, 0x68, 0x67, 0x52, 0x68] := rfl
  exact ⟨hsh, hread, hfold, by decide, fold_routes_to_path hsh hread hfold (by decide)⟩

end BranchLock
