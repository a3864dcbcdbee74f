import Mathlib
import BranchLock.Branch.Composer
import BranchLock.Proofs.FoldedScript
import BranchLock.Proofs.StoredForm

/-!
# A composer seals once

A composer collects branches and seals them into a set on the first seal, or on the first
request of the combined script, that succeeds. Which calls succeed can be read off the calls
alone: a `Composer.Phase` is either *collecting* the branches added so far or *sealed* with
them, and a seal finds the branches sealable when there is at least one and their combined
script, in closed form (`combinedLayout`), is within the script limit.

* `Composer.Phase.Holds.call`: one call answers as its phase says and leaves the composer where
  the next phase says. While collecting, adds succeed and append their branch; a seal of
  sealable branches returns the set of exactly those branches and seals it, any other seal fails
  and changes nothing. Once sealed, adds are refused and no call changes the composer.
* `Composer.calls_follow_phases`: so after any calls from a new composer, by induction on the
  calls.

A seal is the builder's fold of the branch scripts, so whether it succeeds is the closed form's
size limit (`foldsTo_foldScripts`).
-/

namespace BranchLock

/-! ## Sets and their combined scripts -/

namespace BranchSet

/-- A set has at least one branch. -/
theorem branches_ne_nil (s : BranchSet) : s.branches ≠ [] := by
  have hpos := s.shape.pos
  rw [s.shape_numBranches] at hpos
  exact List.ne_nil_of_length_pos hpos

/-- The combined script of a set is the layout of its branch scripts, within the script
limit. -/
theorem script_eq_combinedLayout (s : BranchSet) :
    s.script = combinedLayout (s.branches.map (·.script)) ∧
      (combinedLayout (s.branches.map (·.script))).length ≤ maxScriptSize := by
  have hlen : (s.branches.map (·.script)).length = s.shape.numBranches := by
    rw [List.length_map, s.shape_numBranches]
    rfl
  have hfolds := Shape.foldsTo_fold hlen
  rw [s.folded, FoldsTo] at hfolds
  split at hfolds
  · exact ⟨(Except.ok.inj hfolds), by assumption⟩
  · rcases hfolds with h | h <;> cases h

/-- Making the set of some branches folds their scripts as the package fold does. -/
theorem map_script_make (bs : List Branch) :
    (BranchSet.make bs).map (·.script) = foldScripts (bs.map (·.script)) := by
  unfold make foldScripts
  rw [List.length_map]
  cases Shape.ofCount bs.length with
  | error e => rfl
  | ok sh =>
    dsimp only
    split
    · rename_i e he
      rw [he]
      rfl
    · rename_i script hs
      show (Except.ok script : Except FoldError Bytes) = _
      exact hs.symm

end BranchSet

/-! ## Calls of a composer -/

namespace Composer

/-- One call of a composer's operations, with its arguments. -/
inductive Call where
  /-- Add a branch. -/
  | addAlternative (b : Branch)
  /-- Add a script, tagged with the kind its form shows. -/
  | addScript (script : Bytes)
  /-- Ask for the number of branches. -/
  | numBranches
  /-- Ask for the combined script, sealing the set. -/
  | combinedScript
  /-- Seal the set. -/
  | sealSet

/-- What a call answers. -/
inductive Answer where
  /-- An add succeeded or failed. -/
  | added (r : Except BranchError Unit)
  /-- The number of branches. -/
  | count (n : Nat)
  /-- The combined script, or why there is none. -/
  | script (r : Except FoldError Bytes)
  /-- The sealed set, or why there is none. -/
  | set (r : Except FoldError BranchSet)

/-- Makes one call: its answer, and the composer after it. A call that fails leaves the composer
as it was. -/
def call (c : Composer) : Call → Answer × Composer
  | .addAlternative b =>
    match c.addAlternative b with
    | .ok c' => (.added (.ok ()), c')
    | .error e => (.added (.error e), c)
  | .addScript script =>
    match c.addScript script with
    | .ok c' => (.added (.ok ()), c')
    | .error e => (.added (.error e), c)
  | .numBranches => (.count c.numBranches, c)
  | .combinedScript =>
    match c.combinedScript with
    | .ok (script, c') => (.script (.ok script), c')
    | .error e => (.script (.error e), c)
  | .sealSet =>
    match c.sealSet with
    | .ok (s, c') => (.set (.ok s), c')
    | .error e => (.set (.error e), c)

/-- The composer after a run of calls, each on the composer the one before left. -/
def runCalls (c : Composer) (cs : List Call) : Composer := cs.foldl (fun c k => (c.call k).2) c

/-- One more call runs on the composer the earlier calls left. -/
theorem runCalls_append_singleton (c : Composer) (cs : List Call) (k : Call) :
    c.runCalls (cs ++ [k]) = ((c.runCalls cs).call k).2 := by
  simp [runCalls, List.foldl_append]

/-- Sealing an unsealed composer makes the set of its branches and keeps it. -/
theorem sealSet_of_unsealed {c : Composer} (h : c.sealed = none) :
    c.sealSet = (BranchSet.make c.branches).map fun s => (s, { c with sealed := some s }) := by
  unfold sealSet
  rw [h]
  cases BranchSet.make c.branches <;> rfl

/-- A sealed composer refuses every add, answers every seal with its set and its combined
script, and no call changes it. -/
theorem call_of_sealed {c : Composer} {s : BranchSet} (h : c.sealed = some s) (k : Call) :
    (c.call k).2 = c ∧ (c.call .sealSet).1 = .set (.ok s) ∧
      (c.call .combinedScript).1 = .script (.ok s.script) := by
  have hseal : c.sealSet = .ok (s, c) := by simp [sealSet, h]
  have hcomb : c.combinedScript = .ok (s.script, c) := by
    simp [combinedScript, hseal, Except.map]
  refine ⟨?_, by simp [call, hseal], by simp [call, hcomb]⟩
  cases k with
  | addAlternative b => simp [call, addAlternative, h]
  | addScript script => simp [call, addScript, addAlternative, h]
  | numBranches => rfl
  | combinedScript => simp [call, hcomb]
  | sealSet => simp [call, hseal]

/-! ## Phases -/

/-- Whether branches can be sealed: there is at least one, and their combined script is within
the script limit. -/
def sealable (bs : List Branch) : Bool :=
  !bs.isEmpty && decide ((combinedLayout (bs.map (·.script))).length ≤ maxScriptSize)

/-- What sealing branches answers: for no branches, the refusal of an empty set; otherwise the
set of exactly those branches, whose combined script is their layout, when the layout is within
the script limit, and the builder's refusal when it is not. -/
def SealsTo (bs : List Branch) (r : Except FoldError BranchSet) : Prop :=
  if bs.isEmpty then r = .error (.branch (.emptySet 0))
  else FoldsTo (bs.map (·.script)) (r.map (·.script)) ∧ ∀ s, r = .ok s → s.branches = bs

/-- Making the set of some branches answers as sealing them does. -/
theorem sealsTo_make (bs : List Branch) : SealsTo bs (BranchSet.make bs) := by
  unfold SealsTo
  split
  · rename_i hbs
    rw [List.isEmpty_iff] at hbs
    subst hbs
    rfl
  · rename_i hbs
    have hne : bs.map (·.script) ≠ [] := by simpa using hbs
    refine ⟨?_, fun s hs => BranchSet.branches_of_make hs⟩
    rw [BranchSet.map_script_make]
    exact foldsTo_foldScripts hne

/-- Sealable branches seal into the set of exactly those branches, whose combined script is
their layout. -/
theorem eq_ok_of_sealsTo {bs : List Branch} {r : Except FoldError BranchSet}
    (hs : sealable bs = true) (h : SealsTo bs r) :
    ∃ s, r = .ok s ∧ s.branches = bs ∧ s.script = combinedLayout (bs.map (·.script)) := by
  simp only [sealable, Bool.and_eq_true, Bool.not_eq_true', decide_eq_true_eq] at hs
  obtain ⟨hne, hfits⟩ := hs
  simp only [SealsTo, hne, Bool.false_eq_true, if_false, FoldsTo, if_pos hfits] at h
  obtain ⟨hmap, hbranches⟩ := h
  cases r with
  | error e => cases hmap
  | ok s => exact ⟨s, rfl, hbranches s rfl, Except.ok.inj hmap⟩

/-- Branches that are not sealable are refused. -/
theorem eq_error_of_sealsTo {bs : List Branch} {r : Except FoldError BranchSet}
    (hs : sealable bs = false) (h : SealsTo bs r) : ∃ e, r = .error e := by
  cases r with
  | error e => exact ⟨e, rfl⟩
  | ok s =>
    exfalso
    simp only [sealable, Bool.and_eq_false_iff, Bool.not_eq_false', decide_eq_false_iff_not,
      Nat.not_le] at hs
    unfold SealsTo at h
    split at h
    · cases h
    · rename_i hne
      rcases hs with hnil | hover
      · exact hne hnil
      · obtain ⟨hmap, -⟩ := h
        simp only [FoldsTo, if_neg (Nat.not_le.2 hover)] at hmap
        rcases hmap with h | h <;> cases h

/-- A set's branches seal into the set itself. -/
theorem sealsTo_branches (s : BranchSet) : SealsTo s.branches (.ok s) := by
  obtain ⟨hss, hfits⟩ := s.script_eq_combinedLayout
  have hne : s.branches.isEmpty = false := by simpa using s.branches_ne_nil
  simp only [SealsTo, hne, Bool.false_eq_true, if_false, FoldsTo, if_pos hfits]
  refine ⟨?_, fun s' hs' => by cases hs'; rfl⟩
  show (Except.ok s.script : Except FoldError Bytes) = _
  rw [← hss]

/-- Where a composer stands after some calls, read off the calls alone. -/
inductive Phase where
  /-- Collecting branches; these were added so far. -/
  | collecting (branches : List Branch)
  /-- Sealed with these branches. -/
  | sealed (branches : List Branch)

namespace Phase

/-- The branches of a phase. -/
def branches : Phase → List Branch
  | collecting bs => bs
  | sealed bs => bs

/-- Whether a phase is sealed. -/
def isSealed : Phase → Bool
  | collecting _ => false
  | sealed _ => true

/-- The phase after a call: while collecting, an add appends its branch, and a seal or a request
of the combined script seals sealable branches; nothing else moves the phase. -/
def next : Phase → Call → Phase
  | collecting bs, .addAlternative b => collecting (bs ++ [b])
  | collecting bs, .addScript script => collecting (bs ++ [⟨BranchKind.classify script, script⟩])
  | collecting bs, .combinedScript => if sealable bs then sealed bs else collecting bs
  | collecting bs, .sealSet => if sealable bs then sealed bs else collecting bs
  | p, _ => p

/-- The phase after calls from a new composer. -/
def ofCalls (cs : List Call) : Phase := cs.foldl next (collecting [])

/-- The phase after one more call is the next phase of the one before it. -/
theorem ofCalls_append_singleton (cs : List Call) (k : Call) :
    ofCalls (cs ++ [k]) = (ofCalls cs).next k := by
  simp [ofCalls, List.foldl_append]

/-- A composer stands where a phase says: collecting exactly its branches, unsealed; or sealed
into the set of exactly its branches, whose combined script is their layout. -/
def Holds : Phase → Composer → Prop
  | collecting bs, c => c.branches = bs ∧ c.sealed = none
  | sealed bs, c => c.branches = bs ∧
      ∃ s, c.sealed = some s ∧ s.branches = bs ∧ s.script = combinedLayout (bs.map (·.script))

/-- What a call answers in a phase: adds succeed while collecting and are refused once sealed,
the count is the number of branches, and seals and requests of the combined script answer as
sealing the branches does. -/
def Answers (p : Phase) : Call → Answer → Prop
  | .addAlternative _, a | .addScript _, a =>
    a = .added (if p.isSealed then .error (.sealed p.branches.length) else .ok ())
  | .numBranches, a => a = .count p.branches.length
  | .sealSet, a => ∃ r, a = .set r ∧ SealsTo p.branches r
  | .combinedScript, a => ∃ r, a = .script (r.map (·.script)) ∧ SealsTo p.branches r

/-- A new composer is collecting no branches. -/
theorem holds_new : (collecting []).Holds ({} : Composer) := ⟨rfl, rfl⟩

/-- A collecting composer answers a seal as sealing its branches does, and is sealed afterwards
exactly when they are sealable. -/
theorem Holds.seal_of_collecting {bs : List Branch} {c : Composer}
    (h : (collecting bs).Holds c) :
    ∃ r, SealsTo bs r ∧ c.sealSet = r.map (fun s => (s, { c with sealed := some s })) ∧
      (next (collecting bs) .sealSet).Holds (match r with
        | .ok s => { c with sealed := some s }
        | .error _ => c) := by
  obtain ⟨rfl, hnone⟩ := h
  refine ⟨_, sealsTo_make c.branches, sealSet_of_unsealed hnone, ?_⟩
  cases hs : sealable c.branches
  · -- the branches are refused, and the composer stays as it was
    obtain ⟨e, he⟩ := eq_error_of_sealsTo hs (sealsTo_make c.branches)
    rw [he, next, hs]
    exact ⟨rfl, hnone⟩
  · obtain ⟨s, hsok, hsb, hss⟩ := eq_ok_of_sealsTo hs (sealsTo_make c.branches)
    rw [hsok, next, hs]
    exact ⟨rfl, s, rfl, hsb, hss⟩

/-- **One call follows its phase.** A composer that stands where a phase says answers a call as
the phase says, and stands where the next phase says after it. -/
theorem Holds.call {p : Phase} {c : Composer} (h : p.Holds c) (k : Call) :
    p.Answers k (c.call k).1 ∧ (p.next k).Holds (c.call k).2 := by
  cases p with
  | collecting bs =>
    have ⟨hbs, hnone⟩ := h
    cases k with
    | addAlternative b =>
      have hadd : c.addAlternative b = .ok { c with branches := c.branches ++ [b] } := by
        simp [addAlternative, hnone]
      simp only [Composer.call, hadd]
      exact ⟨rfl, by simp [next, Holds, hbs, hnone]⟩
    | addScript script =>
      have hadd : c.addScript script =
          .ok { c with branches := c.branches ++ [⟨BranchKind.classify script, script⟩] } := by
        simp [addScript, addAlternative, Branch.ofScript, hnone]
      simp only [Composer.call, hadd]
      exact ⟨rfl, by simp [next, Holds, hbs, hnone]⟩
    | numBranches => exact ⟨by simp [Composer.call, Answers, branches, numBranches, hbs], h⟩
    | sealSet =>
      obtain ⟨r, hr, hseal, hnext⟩ := h.seal_of_collecting
      simp only [Composer.call, hseal]
      cases r with
      | error e => exact ⟨⟨_, rfl, hr⟩, hnext⟩
      | ok s => exact ⟨⟨_, rfl, hr⟩, hnext⟩
    | combinedScript =>
      obtain ⟨r, hr, hseal, hnext⟩ := h.seal_of_collecting
      -- a request of the combined script seals exactly as a seal does
      have hsame : next (collecting bs) .combinedScript = next (collecting bs) .sealSet := rfl
      simp only [Composer.call, Composer.combinedScript, hseal]
      rw [hsame]
      cases r with
      | error e => exact ⟨⟨.error e, rfl, hr⟩, hnext⟩
      | ok s => exact ⟨⟨.ok s, rfl, hr⟩, hnext⟩
  | sealed bs =>
    obtain ⟨hbs, s, hsome, hsb, hss⟩ := h
    obtain ⟨hsame, hseal, hcomb⟩ := call_of_sealed hsome k
    have hnext : next (sealed bs) k = sealed bs := by cases k <;> rfl
    refine ⟨?_, by rw [hnext, hsame]; exact ⟨hbs, s, hsome, hsb, hss⟩⟩
    -- the set answers every seal, and it is the set of the branches
    have hsealsTo : SealsTo bs (.ok s) := hsb ▸ sealsTo_branches s
    cases k with
    | addAlternative b =>
      simp [Composer.call, addAlternative, hsome, Answers, isSealed, branches, hbs]
    | addScript script =>
      simp [Composer.call, addScript, addAlternative, hsome, Answers, isSealed, branches, hbs]
    | numBranches => simp [Composer.call, Answers, branches, numBranches, hbs]
    | sealSet => exact ⟨_, hseal, hsealsTo⟩
    | combinedScript => exact ⟨.ok s, hcomb, hsealsTo⟩

end Phase

/-- A new composer, after any calls, stands where the phase of the calls says. -/
theorem holds_runCalls (cs : List Call) : (Phase.ofCalls cs).Holds (({} : Composer).runCalls cs) := by
  induction cs using List.reverseRecOn with
  | nil => exact Phase.holds_new
  | append_singleton cs k ih =>
    rw [Phase.ofCalls_append_singleton, runCalls_append_singleton]
    exact (ih.call k).2

/-- **The calls of a composer follow their phases.** Start from a new composer and make any
calls. The composer stands where the phase of the calls says, and answers the next call as the
phase says. So until the first seal or request of the combined script that finds at least one
branch and a combined script within the script limit, every add succeeds and appends its branch
(a script tagged with the kind its form shows), and every other seal fails and leaves the
composer as it was: with the refusal of an empty set for no branches, with the builder's refusal
otherwise. From then on the composer holds the set of exactly the branches added, in order,
whose combined script is their fold; every add is refused, no call changes the composer, and
every seal returns that very set. -/
theorem calls_follow_phases (cs : List Call) (k : Call) :
    let c := ({} : Composer).runCalls cs
    (Phase.ofCalls cs).Holds c ∧ (Phase.ofCalls cs).Answers k (c.call k).1 ∧
      ∀ s, c.sealed = some s → (c.call k).2 = c ∧ (c.call .sealSet).1 = .set (.ok s) := by
  intro c
  have h := holds_runCalls cs
  refine ⟨h, (h.call k).1, fun s hs => ?_⟩
  obtain ⟨hsame, hseal, -⟩ := call_of_sealed hs k
  exact ⟨hsame, hseal⟩

end Composer

end BranchLock
