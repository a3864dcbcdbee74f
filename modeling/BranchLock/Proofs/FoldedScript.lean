import Mathlib
import BranchLock.Proofs.ConditionalRouting

/-!
# The combined script in closed form

The combined script of `n` branch scripts `s₀ … sₙ₋₁` is built by a recursion over the nesting
tree, one builder call per opcode and per branch script. Laid out flat it is

  `OP_IF`ⁿ⁻¹ `s₀` (`OP_ELSE` `sₖ` `OP_ENDIF` for k = 1‥n-1)

(`combinedLayout`), of `|s₀| + … + |sₙ₋₁| + 3(n-1)` bytes (`length_combinedLayout`). The builder
checks the length of the script at every call, but lengths only grow, so it refuses the fold
exactly when that total is over 10000 bytes, whichever call first crosses the limit.

* `Push.firstError_eq_none_iff`: instructions other than numbers break no limit exactly when
  every data element is within the element limit and the whole script within the script limit.
  The assembler's unlocking scripts are built under the same rule.
* `Nesting.flatMap_encode_pushes_leftLeaning`: the bytes of the left-leaning tree are the layout.
* `fold_closed_form`: a shape of `n ≥ 1` branches, and the fold of a list of `n` scripts, give
  the layout when it fits and a refusal of the builder otherwise; a shape given a list of any
  other length refuses it, and the empty list has no fold.
-/

namespace BranchLock

/-! ## The builder's limits -/

namespace Push

/-- Whether an instruction is a number, the one kind that is checked by more than its length. -/
def isNum : Push → Bool
  | .num _ => true
  | _ => false

/-- Whether an instruction copies script code as it stands: an opcode or raw bytes. -/
def isCode : Push → Bool
  | .op _ => true
  | .raw _ => true
  | _ => false

/-- **When a build meets no limit.** Instructions other than numbers, added to a script of
`used` bytes within the script limit, break no limit exactly when every data element is within
the element limit and the whole script is within the script limit. -/
theorem firstError_eq_none_iff {used : Nat} {ps : List Push} (hps : ∀ p ∈ ps, p.isNum = false)
    (hused : used ≤ maxScriptSize) :
    firstError used ps = none ↔
      (∀ d, Push.data d ∈ ps → d.length ≤ maxElementSize) ∧
        used + (ps.flatMap encode).length ≤ maxScriptSize := by
  induction ps generalizing used with
  | nil => simp [firstError, hused]
  | cons p ps ih =>
    have hrest : ∀ q ∈ ps, q.isNum = false := fun q hq => hps q (List.mem_cons_of_mem p hq)
    -- each check refuses exactly what the rest of the build could not absorb
    cases p with
    | op b =>
      by_cases hover : used + 1 > maxScriptSize
      · simp only [firstError, check, if_pos hover, reduceCtorEq, false_iff, not_and]
        intro _
        simp only [List.flatMap_cons, encode, List.length_append, List.length_singleton]
        omega
      · rw [firstError, check, if_neg hover]
        simp only [encode, List.length_singleton]
        rw [ih hrest (by omega)]
        simp only [List.mem_cons, reduceCtorEq, false_or, List.flatMap_cons, encode,
          List.length_append, List.length_singleton]
        exact and_congr_right fun _ => by omega
    | raw bs =>
      by_cases hover : used + bs.length > maxScriptSize
      · simp only [firstError, check, if_pos hover, reduceCtorEq, false_iff, not_and]
        intro _
        simp only [List.flatMap_cons, encode, List.length_append]
        omega
      · rw [firstError, check, if_neg hover]
        simp only [encode]
        rw [ih hrest (by omega)]
        simp only [List.mem_cons, reduceCtorEq, false_or, List.flatMap_cons, encode,
          List.length_append]
        exact and_congr_right fun _ => by omega
    | data d =>
      by_cases hover : used + (encodeData d).length > maxScriptSize
      · simp only [firstError, check, if_pos hover, reduceCtorEq, false_iff, not_and]
        intro _
        simp only [List.flatMap_cons, encode, List.length_append]
        omega
      · by_cases hlarge : d.length > maxElementSize
        · simp only [firstError, check, if_neg hover, if_pos hlarge, reduceCtorEq, false_iff,
            not_and]
          intro hle
          exact absurd (hle d List.mem_cons_self) (by omega)
        · rw [firstError, check, if_neg hover, if_neg hlarge]
          simp only [encode]
          rw [ih hrest (by omega)]
          simp only [List.mem_cons, Push.data.injEq, List.flatMap_cons, encode,
            List.length_append]
          constructor
          · rintro ⟨hle, hlen⟩
            refine ⟨fun e he => ?_, by omega⟩
            rcases he with rfl | he
            · omega
            · exact hle e he
          · rintro ⟨hle, hlen⟩
            exact ⟨fun e he => hle e (.inr he), by omega⟩
    | num v => simp [isNum] at hps

/-- The error a build meets is the check of one of its instructions, at some length. -/
theorem exists_check_of_firstError {used : Nat} {ps : List Push} {e : BuildError}
    (h : firstError used ps = some e) : ∃ p ∈ ps, ∃ u, p.check u = some e := by
  induction ps generalizing used with
  | nil => cases h
  | cons p ps ih =>
    unfold firstError at h
    split at h
    · rename_i e' hcheck
      cases h
      exact ⟨p, List.mem_cons_self, used, hcheck⟩
    · obtain ⟨q, hq, u, hu⟩ := ih h
      exact ⟨q, List.mem_cons_of_mem p hq, u, hu⟩

/-- An opcode or raw bytes are refused only for the length of the script. -/
theorem check_of_isCode {p : Push} (hp : p.isCode = true) {u : Nat} {e : BuildError}
    (h : p.check u = some e) : e = .opcodeTooLong ∨ e = .opcodesTooLong := by
  cases p with
  | op b =>
    simp only [check] at h
    split at h
    · cases h; exact .inl rfl
    · cases h
  | raw bs =>
    simp only [check] at h
    split at h
    · cases h; exact .inr rfl
    · cases h
  | data d => cases hp
  | num v => cases hp

end Push

/-! ## The layout of the left-leaning tree -/

/-- The combined script of branch scripts in closed form: one `OP_IF` for each branch after the
first, the first script, then each later script between `OP_ELSE` and `OP_ENDIF`. -/
def combinedLayout : List Bytes → Bytes
  | [] => []
  | s :: rest =>
    List.replicate rest.length Opcode.opIf ++ s ++
      rest.flatMap fun t => Opcode.opElse :: t ++ [Opcode.opEndIf]

/-- The layout has every branch script once and three opcodes for each branch after the
first. -/
@[simp] theorem length_combinedLayout (scripts : List Bytes) :
    (combinedLayout scripts).length = (scripts.map List.length).sum + 3 * (scripts.length - 1) := by
  cases scripts with
  | nil => rfl
  | cons s rest =>
    have hrest : (rest.flatMap fun t => Opcode.opElse :: t ++ [Opcode.opEndIf]).length =
        (rest.map List.length).sum + 2 * rest.length := by
      induction rest with
      | nil => rfl
      | cons t rest ih =>
        simp only [List.flatMap_cons, List.length_append, ih, List.length_cons, List.length_nil,
          List.map_cons, List.sum_cons]
        omega
    simp only [combinedLayout, List.length_append, List.length_replicate, hrest, List.map_cons,
      List.sum_cons, List.length_cons, Nat.add_sub_cancel]
    omega

/-- One more branch wraps the layout in one more conditional, whose false arm it is. -/
theorem combinedLayout_append_singleton {scripts : List Bytes} (h : scripts ≠ []) (t : Bytes) :
    combinedLayout (scripts ++ [t]) =
      Opcode.opIf :: combinedLayout scripts ++ Opcode.opElse :: t ++ [Opcode.opEndIf] := by
  obtain ⟨s, rest, rfl⟩ := List.exists_cons_of_ne_nil h
  simp [combinedLayout, List.replicate_succ]

/-- Every instruction of a nesting tree copies script code: the tree adds no data. -/
theorem Nesting.isCode_of_mem_pushes {t : Nesting} {scripts : List Bytes} {p : Push}
    (hp : p ∈ t.pushes scripts) : p.isCode = true := by
  induction t with
  | leaf i =>
    simp only [Nesting.pushes, List.mem_singleton] at hp
    subst hp; rfl
  | cond a b iha ihb =>
    simp only [Nesting.pushes, List.mem_cons, List.mem_append, List.mem_nil_iff,
      or_false] at hp
    rcases hp with ((rfl | hp) | rfl | hp) | rfl
    · rfl
    · exact iha hp
    · rfl
    · exact ihb hp
    · rfl

/-- The bytes of the left-leaning tree of branches `0‥k` are the layout of the first `k + 1`
scripts. -/
theorem Nesting.flatMap_encode_pushes_leftLeaning {k : Nat} {scripts : List Bytes}
    (hk : k < scripts.length) :
    ((leftLeaning k).pushes scripts).flatMap Push.encode =
      combinedLayout (scripts.take (k + 1)) := by
  induction k with
  | zero =>
    obtain ⟨s, rest, rfl⟩ := List.exists_cons_of_ne_nil (List.ne_nil_of_length_pos hk)
    simp [leftLeaning, pushes, Push.encode, combinedLayout]
  | succ k ih =>
    -- the new conditional wraps the tree so far and takes branch `k + 1` as its false arm
    have hnext : scripts.take (k + 1 + 1) = scripts.take (k + 1) ++ [scripts.getD (k + 1) []] := by
      rw [List.take_add_one, List.getElem?_eq_getElem hk, List.getD_eq_getElem _ _ hk]
      rfl
    have hne : scripts.take (k + 1) ≠ [] := List.ne_nil_of_length_pos (by simp; omega)
    rw [leftLeaning, flatMap_encode_pushes_cond, ih (by omega), hnext,
      combinedLayout_append_singleton hne]
    simp [pushes, Push.encode]

/-! ## The fold of a shape -/

/-- What folding scripts gives by the closed form: the layout when it is within the script
limit, and otherwise the builder's refusal of an opcode or of raw bytes past it. -/
def FoldsTo (scripts : List Bytes) (r : Except FoldError Bytes) : Prop :=
  if (combinedLayout scripts).length ≤ maxScriptSize then r = .ok (combinedLayout scripts)
  else r = .error (.build .opcodeTooLong) ∨ r = .error (.build .opcodesTooLong)

namespace Shape

/-- The bytes of the nesting of a shape over one script per branch are the layout. -/
theorem flatMap_encode_pushes {sh : Shape} {scripts : List Bytes}
    (hlen : scripts.length = sh.numBranches) :
    (sh.nesting.pushes scripts).flatMap Push.encode = combinedLayout scripts := by
  have hpos := sh.pos
  rw [nesting, Nesting.flatMap_encode_pushes_leftLeaning (by omega),
    Nat.sub_add_cancel hpos, ← hlen, List.take_length]

/-- A shape folds one script per branch as the closed form says. -/
theorem foldsTo_fold {sh : Shape} {scripts : List Bytes} (hlen : scripts.length = sh.numBranches) :
    FoldsTo scripts (sh.fold scripts) := by
  have hcode : ∀ p ∈ sh.nesting.pushes scripts, p.isNum = false := fun p hp => by
    have := Nesting.isCode_of_mem_pushes hp
    cases p <;> first | rfl | cases this
  have hnone := Push.firstError_eq_none_iff hcode (Nat.zero_le _)
  rw [Nat.zero_add, flatMap_encode_pushes hlen] at hnone
  have hnodata : ∀ d, Push.data d ∈ sh.nesting.pushes scripts → d.length ≤ maxElementSize :=
    fun d hd => absurd (Nesting.isCode_of_mem_pushes hd) (by simp [Push.isCode])
  have hfold : sh.fold scripts = (Push.build (sh.nesting.pushes scripts)).mapError .build := by
    simp [fold, hlen]
  rw [hfold, FoldsTo]
  split
  · rename_i hfits
    rw [Push.build, hnone.2 ⟨hnodata, hfits⟩, Except.mapError_ok, flatMap_encode_pushes hlen]
  · rename_i hover
    -- some instruction of the tree is refused, and only for the length
    cases hfirst : Push.firstError 0 (sh.nesting.pushes scripts) with
    | none => exact absurd (hnone.1 hfirst).2 hover
    | some e =>
      obtain ⟨p, hp, u, hu⟩ := Push.exists_check_of_firstError hfirst
      rw [Push.build, hfirst, Except.mapError_error]
      rcases Push.check_of_isCode (Nesting.isCode_of_mem_pushes hp) hu with rfl | rfl
      · exact .inl rfl
      · exact .inr rfl

/-- The shape of `n ≥ 1` branches. -/
theorem ofCount_of_pos {n : Int} (hn : 1 ≤ n) :
    ofCount n = .ok ⟨n.toNat, Int.lt_toNat.mpr hn⟩ := by
  rw [ofCount, dif_pos hn]

end Shape

/-- The package fold of a non-empty list takes the shape of as many branches as it is given
scripts, so it folds as the closed form says. -/
theorem foldsTo_foldScripts {scripts : List Bytes} (h : scripts ≠ []) :
    FoldsTo scripts (foldScripts scripts) := by
  have hpos : 1 ≤ (scripts.length : Int) := by
    have := List.length_pos_of_ne_nil h
    omega
  have hpkg : foldScripts scripts = (⟨scripts.length, by omega⟩ : Shape).fold scripts := by
    unfold foldScripts
    rw [Shape.ofCount_of_pos hpos]
    rfl
  exact hpkg ▸ Shape.foldsTo_fold rfl

/-- **Closed form of the fold, and its size limit.** For every `n ≥ 1` and every list of
scripts, the shape of `n` branches folds `n` scripts, as the package fold does, into
`OP_IF`ⁿ⁻¹ `s₀` (`OP_ELSE` `sₖ` `OP_ENDIF`)ₖ, of `Σ |sₖ| + 3(n-1)` bytes, when that is at most
10000 bytes, and is refused by the builder otherwise. The shape refuses a list of any other
length, and the empty list has no fold. -/
theorem fold_closed_form (n : Int) (hn : 1 ≤ n) (scripts : List Bytes) :
    ∃ sh, Shape.ofCount n = .ok sh ∧ (sh.numBranches : Int) = n ∧
      (scripts.length = sh.numBranches →
        FoldsTo scripts (sh.fold scripts) ∧ FoldsTo scripts (foldScripts scripts) ∧
          (combinedLayout scripts).length =
            (scripts.map List.length).sum + 3 * (sh.numBranches - 1)) ∧
      (scripts.length ≠ sh.numBranches →
        sh.fold scripts = .error (.branch (.scriptCountMismatch sh.numBranches scripts.length))) ∧
      foldScripts [] = .error (.branch (.emptySet 0)) := by
  refine ⟨_, Shape.ofCount_of_pos hn, by simp; omega, fun hlen => ?_, fun hlen => ?_, rfl⟩
  · have hne : scripts ≠ [] := List.ne_nil_of_length_pos (by simp only [hlen]; omega)
    refine ⟨Shape.foldsTo_fold hlen, foldsTo_foldScripts hne, ?_⟩
    rw [length_combinedLayout, hlen]
  · simp [Shape.fold, hlen]

/-- Three scripts, an empty one among them, fold as the closed form says. -/
theorem fold_closed_form_three :
    1 ≤ (3 : Int) ∧ ∃ sh, Shape.ofCount 3 = .ok sh ∧ (sh.numBranches : Int) = 3 ∧
      ([[0x51], [], [0x52, 0x53]].length = sh.numBranches →
        FoldsTo [[0x51], [], [0x52, 0x53]] (sh.fold [[0x51], [], [0x52, 0x53]]) ∧
        FoldsTo [[0x51], [], [0x52, 0x53]] (foldScripts [[0x51], [], [0x52, 0x53]]) ∧
          (combinedLayout [[0x51], [], [0x52, 0x53]]).length =
            ([[0x51], [], [0x52, 0x53]].map List.length).sum + 3 * (sh.numBranches - 1)) ∧
      ([[0x51], [], [0x52, 0x53]].length ≠ sh.numBranches →
        sh.fold [[0x51], [], [0x52, 0x53]] =
          .error (.branch (.scriptCountMismatch sh.numBranches [[0x51], [], [0x52, 0x53]].length))) ∧
      foldScripts [] = .error (.branch (.emptySet 0)) :=
  ⟨by decide, fold_closed_form 3 (by decide) [[0x51], [], [0x52, 0x53]]⟩

/-- The layout of three scripts. -/
example : combinedLayout [[0x51], [], [0x52, 0x53]] =
    [0x63, 0x63, 0x51, 0x67, 0x68, 0x67, 0x52, 0x53, 0x68] := by decide

end BranchLock
