import Mathlib
import BranchLock.Proofs.FoldedScript

/-!
# The paths of a shape in closed form

The path of a branch is found by a walk from the root of the nesting tree that takes the arm
whose range covers the branch. For the left-leaning tree of `n` branches the walk has a closed
form: branch 0 is reached by `n-1` true decisions, and every other branch `i` by `n-1-i` true
decisions and one false one. The two innermost branches therefore share the innermost
conditional and both sit at depth `n-1`.

* `Nesting.path_leftLeaning_not_prefix`: no path of the tree is a prefix of the path of another
  branch, by induction on the tree: two branches of the true arm differ below the outer
  conditional, and the false arm's path `[false]` starts unlike every path through the true arm.
* `pathFor_closed_form`: for every `n ≥ 1` the shape of `n` branches exists and answers every
  index as `pathFor` does, with the closed form and its length for indices in `[0, n)`; the
  paths of different branches are never prefixes of each other; and every other index, for
  every `n`, is refused with the index and the count, as is every index outside a shape by the
  shape's own path and depth.
-/

namespace BranchLock

namespace Nesting

/-- **The paths are prefix-free.** In the left-leaning tree of branches `0‥k`, the path of a
branch is never a prefix of the path of another branch, so no two paths are equal either. -/
theorem path_leftLeaning_not_prefix {k i j : Nat} (hi : i ≤ k) (hj : j ≤ k) (hij : i ≠ j) :
    ¬ (leftLeaning k).path i <+: (leftLeaning k).path j := by
  induction k with
  | zero => omega
  | succ k ih =>
    -- each branch is either in the true arm, under `true`, or the newest one, at `[false]`
    by_cases hik : i ≤ k <;> by_cases hjk : j ≤ k
    · rw [path_leftLeaning_succ_of_le hik, path_leftLeaning_succ_of_le hjk,
        List.cons_prefix_cons]
      exact fun h => ih hik hjk h.2
    · obtain rfl : j = k + 1 := by omega
      rw [path_leftLeaning_succ_of_le hik, path_leftLeaning_succ_self, List.cons_prefix_cons]
      simp
    · obtain rfl : i = k + 1 := by omega
      rw [path_leftLeaning_succ_self, path_leftLeaning_succ_of_le hjk, List.cons_prefix_cons]
      simp
    · omega

end Nesting

namespace Shape

/-- Every count of at least one branch has a shape of exactly that many branches. -/
theorem exists_ofCount_of_pos {n : Int} (hn : 1 ≤ n) :
    ∃ sh, ofCount n = .ok sh ∧ (sh.numBranches : Int) = n :=
  ⟨_, ofCount_of_pos hn, by simp only; omega⟩

/-- The path of a branch of a shape in closed form. -/
theorem path_eq_closed_form (sh : Shape) {i : Int} (hi : 0 ≤ i ∧ i < sh.numBranches) :
    sh.path i = .ok (if i = 0 then List.replicate (sh.numBranches - 1) true
      else List.replicate (sh.numBranches - 1 - i.toNat) true ++ [false]) := by
  rw [sh.path_eq_ok hi, nesting, Nesting.path_leftLeaning _ _ (by omega)]
  by_cases h0 : i = 0
  · simp [h0]
  · have h0' : i.toNat ≠ 0 := by omega
    simp only [h0, h0', if_false]

/-- An index outside a shape has no path. -/
theorem path_eq_error (sh : Shape) {i : Int} (hi : ¬(0 ≤ i ∧ i < sh.numBranches)) :
    sh.path i = .error (.indexOutOfRange i sh.numBranches) := by
  simp only [path, hi, if_false]

/-- An index outside a shape has no depth. -/
theorem depth_eq_error (sh : Shape) {i : Int} (hi : ¬(0 ≤ i ∧ i < sh.numBranches)) :
    sh.depth i = .error (.indexOutOfRange i sh.numBranches) := by
  simp only [depth, sh.path_eq_error hi]
  rfl

end Shape

/-- From one branch on, `pathFor` asks the shape of that many branches. -/
theorem pathFor_of_ofCount {n : Int} {sh : Shape} (h : Shape.ofCount n = .ok sh) (i : Int) :
    pathFor i n = sh.path i := by
  have hn : ¬ n < 1 := by have := Shape.numBranches_of_ofCount h; have := sh.pos; omega
  simp only [pathFor, hn, if_false, h]

/-- An index outside `[0, n)`, or any index when `n` is below one, has no path. -/
theorem pathFor_eq_error {i n : Int} (h : ¬(1 ≤ n ∧ 0 ≤ i ∧ i < n)) :
    pathFor i n = .error (.indexOutOfRange i n) := by
  by_cases hn : n < 1
  · simp only [pathFor, hn, if_true]
  · obtain ⟨sh, hsh, hcount⟩ := Shape.exists_ofCount_of_pos (by omega : 1 ≤ n)
    rw [pathFor_of_ofCount hsh, sh.path_eq_error (by omega), hcount]

/-- **The paths in closed form.** For every `n ≥ 1` the shape of `n` branches exists, and for
every index its path is what `pathFor i n` answers. For `0 ≤ i < n` that is `n-1` true
decisions when `i = 0`, and `n-1-i` true decisions followed by one false one otherwise, so the
depth is `n-1` for branch 0 and `n-i` for every other branch. The path of a branch is never a
prefix of the path of another branch (so the `n` paths are pairwise distinct). Every other
pair `(i, n)`, including every `n ≤ 0`, is refused with `ErrInvalidBranchIndex` naming `i` and
`n`, and so are the path and depth of every index outside a shape. -/
theorem pathFor_closed_form (n i : Int) :
    (1 ≤ n → ∃ sh, Shape.ofCount n = .ok sh ∧ (sh.numBranches : Int) = n ∧
      sh.path i = pathFor i n ∧
      (0 ≤ i → i < n →
        pathFor i n = .ok (if i = 0 then List.replicate (n - 1).toNat true
          else List.replicate (n - 1 - i).toNat true ++ [false]) ∧
        sh.depth i = .ok (if i = 0 then n - 1 else n - i).toNat)) ∧
    (∀ j p q, pathFor i n = .ok p → pathFor j n = .ok q → i ≠ j → ¬ p <+: q) ∧
    (¬(1 ≤ n ∧ 0 ≤ i ∧ i < n) → pathFor i n = .error (.indexOutOfRange i n)) ∧
    (∀ sh : Shape, ¬(0 ≤ i ∧ i < sh.numBranches) →
      sh.path i = .error (.indexOutOfRange i sh.numBranches) ∧
      sh.depth i = .error (.indexOutOfRange i sh.numBranches)) := by
  refine ⟨fun hn => ?_, fun j p q hp hq hij => ?_, pathFor_eq_error,
    fun sh hi => ⟨sh.path_eq_error hi, sh.depth_eq_error hi⟩⟩
  · obtain ⟨sh, hsh, hcount⟩ := Shape.exists_ofCount_of_pos hn
    refine ⟨sh, hsh, hcount, (pathFor_of_ofCount hsh i).symm, fun hi0 hin => ?_⟩
    have hi : 0 ≤ i ∧ i < sh.numBranches := ⟨hi0, by omega⟩
    have hform := sh.path_eq_closed_form hi
    -- the counts of the closed form, read in `n` and `i`
    have hk : sh.numBranches - 1 = (n - 1).toNat := by omega
    have hk' : sh.numBranches - 1 - i.toNat = (n - 1 - i).toNat := by omega
    rw [hk', hk] at hform
    refine ⟨(pathFor_of_ofCount hsh i).trans hform, ?_⟩
    simp only [Shape.depth, hform, Except.map]
    by_cases h0 : i = 0
    · simp [h0]
    · simp only [h0, if_false, List.length_append, List.length_replicate, List.length_singleton]
      congr 1
      omega
  · -- both indices lie in one shape, whose paths are those of the left-leaning tree
    have hin : 1 ≤ n ∧ 0 ≤ i ∧ i < n := by
      by_contra h
      rw [pathFor_eq_error h] at hp
      cases hp
    have hjn : 1 ≤ n ∧ 0 ≤ j ∧ j < n := by
      by_contra h
      rw [pathFor_eq_error h] at hq
      cases hq
    obtain ⟨sh, hsh, hcount⟩ := Shape.exists_ofCount_of_pos hin.1
    rw [pathFor_of_ofCount hsh, sh.path_eq_ok ⟨hin.2.1, by omega⟩] at hp
    rw [pathFor_of_ofCount hsh, sh.path_eq_ok ⟨hjn.2.1, by omega⟩] at hq
    cases hp
    cases hq
    exact Nesting.path_leftLeaning_not_prefix (by omega) (by omega) (by omega)

/-- Three branches: the middle one is reached by a true and a false decision, at depth two,
and its path is no prefix of branch 0's; branch 3 does not exist. -/
theorem pathFor_closed_form_middle :
    (1 ≤ (3 : Int) ∧ 0 ≤ (1 : Int) ∧ (1 : Int) < 3) ∧
    (∃ sh, Shape.ofCount 3 = .ok sh ∧ (sh.numBranches : Int) = 3 ∧ sh.path 1 = pathFor 1 3 ∧
      pathFor 1 3 = .ok [true, false] ∧ sh.depth 1 = .ok 2) ∧
    (pathFor 1 3 = .ok [true, false] ∧ pathFor 0 3 = .ok [true, true] ∧
      ¬ [true, false] <+: [true, true]) ∧
    pathFor 3 3 = .error (.indexOutOfRange 3 3) := by
  have hmid := (pathFor_closed_form 3 1).1 (by decide)
  obtain ⟨sh, hsh, hcount, hpath, hform⟩ := hmid
  obtain ⟨hp, hd⟩ := hform (by decide) (by decide)
  have hp0 : pathFor 0 3 = .ok [true, true] := by
    obtain ⟨_, _, _, _, h0⟩ := (pathFor_closed_form 3 0).1 (by decide)
    exact (h0 (by decide) (by decide)).1
  refine ⟨by decide, ⟨sh, hsh, hcount, hpath, hp, hd⟩, ⟨hp, hp0, ?_⟩,
    (pathFor_closed_form 3 3).2.2.1 (by decide)⟩
  exact (pathFor_closed_form 3 1).2.1 0 _ _ hp hp0 (by decide)

end BranchLock
