import Mathlib
import BranchLock.Proofs.InterpreterRuns
import BranchLock.Proofs.FoldedScript
import BranchLock.Spend.Assembler

/-!
# The layout of an unlocking script

The unlocking script of a chosen branch is one canonical push per item, in order: the data the
branch's unlocker produces, then the decisions of the branch's path from the innermost to the
outermost (`OP_1` for the taken arm, `OP_0` for the other), then the combined script. Run on
its own, such a script leaves the items on the stack with the outermost decision just under the
combined script, so that the first `OP_IF` of the combined script consumes it.

The interpreter holds at most 1000 items on its stacks, so a script of more pushes fails on the
1001st with a stack overflow, whatever the size of the script. And a canonical push writes the
single zero byte as `OP_0`, which pushes the empty item (`Push.pushedItem`): an unlocker's data
is meant to be what the branch script finds on the stack, yet an element that is that byte comes
back empty (the example at the end of the module). The layout is therefore stated where no
element of the data or the combined script is the single zero byte; every other item, the
decisions included, comes back as it was written.

* `Interpreter.runScript_flatMap_encodeData`: the canonical pushes of items within the element
  limit run to the pushed items, or to the overflow error.
* `Signer.unlockingScript_layout`: for every branch of the set, the lookup and unlocker errors
  pass through, a broken size limit is a build error, and otherwise the script is push-only and,
  off the single zero byte, leaves exactly the unlocking items.
-/

namespace BranchLock

/-! ## What a canonical push leaves on the stack -/

namespace Push

/-- The item the canonical push of `d` leaves on the stack: the single zero byte is written as
`OP_0` and comes back empty, every other element comes back as it is. -/
def pushedItem (d : Bytes) : Bytes := if d = [0] then [] else d

/-- The canonical pushes of elements within the element limit read back as their tokens. -/
theorem parse_flatMap_encodeData (items : List Bytes)
    (h : ∀ d ∈ items, d.length ≤ maxElementSize) :
    Script.parse (items.flatMap encodeData) = (items.map dataToken, none) := by
  induction items with
  | nil => exact Script.parse_nil
  | cons d ds ih =>
    rw [List.flatMap_cons, parse_encodeData_append d (h d List.mem_cons_self),
      ih fun e he => h e (List.mem_cons_of_mem d he)]
    rfl

/-- The data a canonical push carries is empty or the element itself. -/
theorem length_data_dataToken_le (d : Bytes) :
    ((dataToken d).data?.getD []).length ≤ d.length := by
  match d with
  | [] => simp [dataToken, Token.data?]
  | [b] =>
    simp only [dataToken]
    split
    · simp [Token.data?]
    · split
      · simp [Token.data?]
      · split <;> simp [Token.data?]
  | x :: y :: tl =>
    rw [dataToken_long (by simp)]
    split
    · simp [Token.data?]
    · split
      · simp [Token.data?]
      · split <;> simp [Token.data?]

/-- The canonical push of an element within the element limit passes the interpreter's check of
shortest pushes. -/
theorem minimalPushError_dataToken {d : Bytes} (hd : d.length ≤ maxElementSize)
    (hop : (dataToken d).opcode ≤ Opcode.pushData4) :
    minimalPushError (dataToken d).opcode ((dataToken d).data?.getD []) = none := by
  match d with
  | [] => rfl
  | [b] =>
    by_cases h0 : b = 0
    · subst h0
      rfl
    · by_cases h16 : b ≤ 16
      · -- a small-number opcode is above the pushes that are checked
        exfalso
        have hb : b.toNat ≤ 16 := by simpa [UInt8.le_iff_toNat_le] using h16
        have hb0 : b.toNat ≠ 0 := fun h => h0 (UInt8.toNat_inj.1 (by simpa using h))
        simp only [dataToken, h0, h16, if_false, if_true, Token.opcode] at hop
        simp [UInt8.le_iff_toNat_le, Opcode.op1, Opcode.pushData4, UInt8.toNat_add] at hop
        omega
      · by_cases hneg : b = 0x81
        · subst hneg
          exact absurd hop (by decide)
        · have hb : 16 < b.toNat := by simpa [UInt8.le_iff_toNat_le] using h16
          have hb' : b.toNat ≠ 0x81 := fun h => hneg (UInt8.toNat_inj.1 (by simpa using h))
          simp only [dataToken, h0, h16, hneg, if_false, Token.opcode, Token.data?,
            Option.getD_some, minimalPushError]
          simp [h16, hneg]
  | x :: y :: tl =>
    have hlen : 2 ≤ (x :: y :: tl).length := by simp
    simp only [maxElementSize] at hd
    rw [dataToken_long hlen] at hop ⊢
    generalize x :: y :: tl = d at hlen hd hop ⊢
    -- a direct push, or one of the two prefixed pushes an element within the limit needs
    have h0 : ¬ d.length = 0 := by omega
    have h1 : ¬ d.length = 1 := by omega
    split
    · rename_i hdirect
      have hv : (UInt8.ofNat d.length).toNat = d.length := by simp; omega
      have h75 : d.length ≤ 75 := by omega
      simp only [minimalPushError, Token.opcode, Token.data?, Option.getD_some, h0, h1,
        false_and, if_false, h75, if_true, hv, ne_eq, not_true_eq_false]
    · split
      · rename_i hdirect h255
        have h75 : ¬ d.length ≤ 75 := by omega
        simp only [minimalPushError, Token.opcode, Token.data?, Option.getD_some, h0, h1,
          false_and, if_false, h75, h255, if_true, ne_eq, not_true_eq_false]
      · split
        · rename_i hdirect h255 h65535
          have h75 : ¬ d.length ≤ 75 := by omega
          simp only [minimalPushError, Token.opcode, Token.data?, Option.getD_some, h0, h1,
            false_and, if_false, h75, h255, h65535, if_true, ne_eq, not_true_eq_false]
        · omega

end Push

/-- A script of canonical pushes is push-only. -/
theorem Script.isPushOnly_flatMap_encodeData (items : List Bytes)
    (h : ∀ d ∈ items, d.length ≤ maxElementSize) :
    Script.isPushOnly (items.flatMap Push.encodeData) = true := by
  simp only [Script.isPushOnly, Script.tokens, Push.parse_flatMap_encodeData items h,
    List.all_map, List.all_eq_true, Function.comp_apply, decide_eq_true_eq]
  exact fun d _ => Push.dataToken_opcode_le d

/-! ## Running the pushes -/

namespace Interpreter

variable {ctx : Spending} {m : Machine}

/-- The error of the push that brings the two stacks to 1001 items. -/
def overflowError : ScriptError := ⟨.stackOverflow, "combined stack size 1001 > max allowed 1000"⟩

/-- A push in shortest form within the element limit, where it runs, is the opcode itself
followed by the check of the stack depth. -/
theorem step_of_minimal {t : Token} (hp : t.opcode ≤ Opcode.op16)
    (hlen : (t.data?.getD []).length ≤ maxElementSize) (hex : m.executing = true)
    (hmin : t.opcode ≤ Opcode.pushData4 → minimalPushError t.opcode (t.data?.getD []) = none) :
    step ctx m t = run ctx m t >>= fun m' =>
      if m'.stack.length + m'.alt.length > 1000 then
        .error ⟨.stackOverflow, "combined stack size " ++
          toString (m'.stack.length + m'.alt.length) ++ " > max allowed 1000"⟩
      else .ok m' := by
  obtain ⟨hdis, hver, hgt, hcond⟩ := push_opcode_facts hp
  have hlen' : ¬ ((t.data?.getD []).length > maxElementSize) := by omega
  unfold step
  simp only [hdis, hver, hgt, hcond, hlen', hex, if_false, Bool.false_eq_true, decide_false,
    Bool.not_true, Bool.false_and, true_and, bind, Except.bind, pure, Except.pure]
  -- the only check left is that of the shortest form, which the push passes
  by_cases hop : t.opcode ≤ Opcode.pushData4 <;> simp only [hop, hmin, if_true, if_false]
  all_goals
    cases run ctx m t with
    | error e => rfl
    | ok m' =>
      by_cases hd : m'.stack.length + m'.alt.length > 1000 <;>
        simp [hd, throw, throwThe, MonadExceptOf.throw]

/-- The canonical push of an element pushes its pushed item. -/
theorem run_dataToken_pushedItem (ctx : Spending) (m : Machine) (d : Bytes) :
    run ctx m (Push.dataToken d) = .ok (m.push (Push.pushedItem d)) := by
  by_cases hd : d = [0]
  · subst hd
    rfl
  · rw [run_dataToken ctx m hd, Push.pushedItem, if_neg hd]

/-- Where it runs, the canonical push of an element within the element limit pushes its item,
unless the two stacks then hold more than 1000 items. -/
theorem step_dataToken_eq {d : Bytes} (hd : d.length ≤ maxElementSize)
    (hex : m.executing = true) :
    step ctx m (Push.dataToken d) =
      if m.stack.length + 1 + m.alt.length > 1000 then
        .error ⟨.stackOverflow, "combined stack size " ++
          toString (m.stack.length + 1 + m.alt.length) ++ " > max allowed 1000"⟩
      else .ok (m.push (Push.pushedItem d)) := by
  have hlen := (Push.length_data_dataToken_le d).trans hd
  rw [step_of_minimal (Push.dataToken_opcode_le d) hlen hex (Push.minimalPushError_dataToken hd),
    run_dataToken_pushedItem]
  rfl

/-- **A run of canonical pushes.** From a machine outside every conditional with an empty
alternate stack, the canonical pushes of elements within the element limit push their items in
order, or fail with the overflow error once the stack would pass 1000 items. -/
theorem runTokens_dataTokens (items : List Bytes)
    (hitems : ∀ d ∈ items, d.length ≤ maxElementSize) (hbr : m.branches = [])
    (halt : m.alt = []) (hm : m.stack.length ≤ 1000) :
    runTokens ctx m (items.map Push.dataToken) =
      if m.stack.length + items.length ≤ 1000 then
        .ok { m with stack := (items.map Push.pushedItem).reverse ++ m.stack }
      else .error overflowError := by
  induction items generalizing m with
  | nil => simp [runTokens, hm]
  | cons d ds ih =>
    have hex : m.executing = true := by simp [Machine.executing, hbr]
    simp only [List.map_cons, runTokens]
    rw [step_dataToken_eq (hitems d List.mem_cons_self) hex]
    by_cases hfull : m.stack.length = 1000
    · -- this push is the 1001st item
      simp [halt, hfull, bind, Except.bind, overflowError]
      rfl
    · have hm' : (m.push (Push.pushedItem d)).stack.length ≤ 1000 := by
        simp [Machine.push]
        omega
      rw [if_neg (by simp [halt]; omega)]
      simp only [bind, Except.bind]
      rw [ih (m := m.push (Push.pushedItem d)) (fun e he => hitems e (List.mem_cons_of_mem d he))
        hbr halt hm']
      simp [Machine.push, List.length_cons, Nat.add_assoc, Nat.add_comm 1]

/-- **Running canonical pushes.** The canonical pushes of elements within the element limit,
run on their own, leave their pushed items with the last on top, as long as there are at most
1000 of them; a longer run overflows the stack. -/
theorem runScript_flatMap_encodeData (ctx : Spending) (items : List Bytes)
    (hitems : ∀ d ∈ items, d.length ≤ maxElementSize) :
    runScript ctx [] (items.flatMap Push.encodeData) =
      if items.length ≤ 1000 then .ok (items.map Push.pushedItem).reverse
      else .error overflowError := by
  have htok : Script.tokens (items.flatMap Push.encodeData) = .ok (items.map Push.dataToken) :=
    Script.tokens_eq_ok_iff.2 (Push.parse_flatMap_encodeData items hitems)
  unfold runScript
  simp only [htok, Except.mapError_ok, bind, Except.bind]
  rw [runTokens_dataTokens items hitems rfl rfl (by simp)]
  by_cases h : items.length ≤ 1000 <;> simp [h, pure, Except.pure]

end Interpreter

/-- A script that pushes `items` canonically: it is the items' canonical pushes, it is push-only,
and run on its own it leaves the pushed items with the last on top when there are at most 1000
of them, and overflows the stack otherwise. -/
def PushesItems (script : Bytes) (items : List Bytes) : Prop :=
  script = items.flatMap Push.encodeData ∧ Script.isPushOnly script = true ∧
    ∀ ctx, Interpreter.runScript ctx [] script =
      if items.length ≤ 1000 then .ok (items.map Push.pushedItem).reverse
      else .error Interpreter.overflowError

/-- The canonical pushes of elements within the element limit push those elements. -/
theorem pushesItems_flatMap_encodeData (items : List Bytes)
    (h : ∀ d ∈ items, d.length ≤ maxElementSize) :
    PushesItems (items.flatMap Push.encodeData) items :=
  ⟨rfl, Script.isPushOnly_flatMap_encodeData items h,
    fun ctx => Interpreter.runScript_flatMap_encodeData ctx items h⟩

/-! ## The unlocking script of a chosen branch -/

/-- The items an unlocking script pushes, first to last: the unlocking data, the decisions of
the path from the innermost to the outermost, and the combined script. -/
def unlockItems (data : List Bytes) (path : List Bool) (combined : Bytes) : List Bytes :=
  data ++ path.reverse.map Bytes.ofBool ++ [combined]

/-- The instruction a decision of a path is written as: `OP_1` for the taken arm, `OP_0` for
the other. -/
def Push.decision (d : Bool) : Push := .op (if d then Opcode.op1 else Opcode.op0)

/-- The instructions of an unlocking script: the unlocking data, the decisions of the path from
the innermost to the outermost, and the combined script. -/
def unlockPushes (data : List Bytes) (path : List Bool) (combined : Bytes) : List Push :=
  Push.datas data ++ path.reverse.map Push.decision ++ [.data combined]

/-- A decision's opcode is the canonical push of the decision as an item. -/
theorem Push.encode_decision (d : Bool) :
    (Push.decision d).encode = Push.encodeData (Bytes.ofBool d) := by
  cases d <;> rfl

/-- Every unlocking item is an element of the data, the combined script, or a decision: the
empty item or `[1]`. -/
theorem mem_unlockItems {data : List Bytes} {path : List Bool} {combined d : Bytes}
    (hd : d ∈ unlockItems data path combined) : d ∈ data ++ [combined] ∨ d = [] ∨ d = [1] := by
  simp only [unlockItems, List.mem_append, List.mem_map, List.mem_singleton] at hd
  rcases hd with (hd | ⟨b, -, rfl⟩) | rfl
  · exact .inl (List.mem_append_left _ hd)
  · cases b
    · exact .inr (.inl rfl)
    · exact .inr (.inr rfl)
  · exact .inl (List.mem_append_right _ (List.mem_singleton_self _))

/-- The decisions are within the element limit, so the unlocking items are when the data and
the combined script are. -/
theorem length_le_of_mem_unlockItems {data : List Bytes} {path : List Bool} {combined : Bytes}
    (h : ∀ d ∈ data ++ [combined], d.length ≤ maxElementSize) :
    ∀ d ∈ unlockItems data path combined, d.length ≤ maxElementSize := by
  intro d hd
  rcases mem_unlockItems hd with hd | rfl | rfl
  · exact h d hd
  all_goals simp [maxElementSize]

/-- The decisions are not the single zero byte, so no unlocking item is when neither the data nor
the combined script holds it; every item then comes back from its canonical push as it is. -/
theorem map_pushedItem_unlockItems {data : List Bytes} {path : List Bool} {combined : Bytes}
    (h : ∀ d ∈ data ++ [combined], d ≠ [0x00]) :
    (unlockItems data path combined).map Push.pushedItem = unlockItems data path combined := by
  calc (unlockItems data path combined).map Push.pushedItem
      = (unlockItems data path combined).map id := List.map_congr_left fun d hd => by
        have hne : d ≠ [0x00] := by
          rcases mem_unlockItems hd with hd | rfl | rfl
          · exact h d hd
          all_goals decide
        exact if_neg hne
    _ = unlockItems data path combined := List.map_id _

section Instructions

variable (data : List Bytes) (path : List Bool) (combined : Bytes)

/-- The bytes of the instructions are the canonical pushes of the unlocking items. -/
theorem flatMap_encode_unlockPushes :
    (unlockPushes data path combined).flatMap Push.encode =
      (unlockItems data path combined).flatMap Push.encodeData := by
  have hdata : ∀ d, (Push.data d).encode = Push.encodeData d := fun _ => rfl
  simp only [unlockPushes, unlockItems, Push.datas, List.flatMap_append, List.flatMap_map, hdata,
    Push.encode_decision, List.flatMap_cons, List.flatMap_nil]

/-- Building an unlocking script breaks no limit exactly when the data and the combined script
are within the element limit and the whole script within the script limit. -/
theorem firstError_unlockPushes_eq_none_iff :
    Push.firstError 0 (unlockPushes data path combined) = none ↔
      (∀ d ∈ data ++ [combined], d.length ≤ maxElementSize) ∧
        ((unlockItems data path combined).flatMap Push.encodeData).length ≤ maxScriptSize := by
  have hnum : ∀ p ∈ unlockPushes data path combined, p.isNum = false := by
    intro p hp
    simp only [unlockPushes, Push.datas, List.mem_append, List.mem_map, List.mem_singleton] at hp
    rcases hp with (⟨d, -, rfl⟩ | ⟨b, -, rfl⟩) | rfl <;> rfl
  rw [Push.firstError_eq_none_iff hnum (Nat.zero_le _), flatMap_encode_unlockPushes, Nat.zero_add]
  -- the data elements among the instructions are the unlocking data and the combined script
  refine and_congr_left fun _ => ⟨fun h d hd => h d ?_, fun h d hd => h d ?_⟩
  · simpa [unlockPushes, Push.datas, Push.decision] using hd
  · simpa [unlockPushes, Push.datas, Push.decision] using hd

end Instructions

/-- A registry fails to look up a kind only when no unlocker serves it. -/
theorem Registry.eq_noUnlocker_of_lookup {r : Registry} {kind : BranchKind} {e : BranchError}
    (h : r.lookup kind = .error e) : e = .noUnlocker kind := by
  unfold Registry.lookup at h
  split at h
  · cases h
  · cases h
    rfl

namespace Signer

/-! The unlocking script by the outcome of each of its steps, so that later proofs need not open
its body. -/

section Outcomes

variable {registry : Registry} {s : Signer} {u : Unlocker}

/-- A kind that no unlocker serves fails the unlocking script with the lookup error. -/
theorem unlockingScript_of_lookup_error {e : BranchError}
    (hu : registry.lookup (s.set.branches.getD s.branch ⟨.nonStandard, []⟩).kind = .error e) :
    s.unlockingScript registry = .error (.unlock (.branch e)) := by
  unfold unlockingScript
  simp only [hu, Except.mapError_error, bind, Except.bind]
  rfl

/-- A failing unlocker fails the unlocking script with its error. -/
theorem unlockingScript_of_unlock_error {e : UnlockError}
    (hu : registry.lookup (s.set.branches.getD s.branch ⟨.nonStandard, []⟩).kind = .ok u)
    (hd : u.unlockData (s.set.branches.getD s.branch ⟨.nonStandard, []⟩).script s.contributions =
      .error e) :
    s.unlockingScript registry = .error (.unlock e) := by
  unfold unlockingScript
  simp only [hu, hd, Except.mapError_ok, Except.mapError_error, bind, Except.bind]

/-- The unlocking script once the branch's unlocker has produced its data and the path of the
branch is known: the build of the unlocking instructions. -/
theorem unlockingScript_of_data {data : List Bytes} {path : List Bool}
    (hu : registry.lookup (s.set.branches.getD s.branch ⟨.nonStandard, []⟩).kind = .ok u)
    (hd : u.unlockData (s.set.branches.getD s.branch ⟨.nonStandard, []⟩).script s.contributions =
      .ok data)
    (hp : s.set.pathFor s.branch = .ok path) :
    s.unlockingScript registry =
      (Push.build (unlockPushes data path s.set.script)).mapError .build := by
  unfold unlockingScript
  simp only [hu, hd, hp, Except.mapError_ok, bind, Except.bind]
  rfl

/-- Where the data and the combined script fit an element and their pushes fit a script, the
unlocking script is the canonical pushes of the unlocking items. -/
theorem unlockingScript_of_fit {data : List Bytes} {path : List Bool}
    (hu : registry.lookup (s.set.branches.getD s.branch ⟨.nonStandard, []⟩).kind = .ok u)
    (hd : u.unlockData (s.set.branches.getD s.branch ⟨.nonStandard, []⟩).script s.contributions =
      .ok data)
    (hp : s.set.pathFor s.branch = .ok path)
    (hle : ∀ d ∈ data ++ [s.set.script], d.length ≤ maxElementSize)
    (hlen : ((unlockItems data path s.set.script).flatMap Push.encodeData).length ≤
      maxScriptSize) :
    s.unlockingScript registry =
      .ok ((unlockItems data path s.set.script).flatMap Push.encodeData) := by
  have hnone := (firstError_unlockPushes_eq_none_iff data path s.set.script).2 ⟨hle, hlen⟩
  rw [unlockingScript_of_data hu hd hp]
  simp [Push.build, hnone, flatMap_encode_unlockPushes]

end Outcomes

/-- What the unlocking script of a signer is, along the path `path` to its branch: the lookup
of an unlocker for the branch's kind and the unlocker itself may fail, and their errors pass
through; unlocking data or a combined script over the element limit, or a script over the script
limit, give a build error. Otherwise the script is the canonical pushes of the unlocking items
and push-only, and when neither the data nor the combined script holds the single zero byte, run
on its own it leaves exactly the items, the combined script on top, if there are at most 1000 of
them, and overflows the stack if there are more. -/
def UnlocksAlong (registry : Registry) (s : Signer) (path : List Bool) : Prop :=
  let b := s.set.branches.getD s.branch ⟨.nonStandard, []⟩
  match registry.lookup b.kind with
  | .error e => e = .noUnlocker b.kind ∧ s.unlockingScript registry = .error (.unlock (.branch e))
  | .ok u =>
    match u.unlockData b.script s.contributions with
    | .error e => s.unlockingScript registry = .error (.unlock e)
    | .ok data =>
      let items := unlockItems data path s.set.script
      if (∃ d ∈ data ++ [s.set.script], maxElementSize < d.length) ∨
          maxScriptSize < (items.flatMap Push.encodeData).length then
        ∃ e, s.unlockingScript registry = .error (.build e)
      else ∃ script, s.unlockingScript registry = .ok script ∧
        script = items.flatMap Push.encodeData ∧ Script.isPushOnly script = true ∧
        ((∀ d ∈ data ++ [s.set.script], d ≠ [0x00]) → ∀ ctx,
          Interpreter.runScript ctx [] script =
            if items.length ≤ 1000 then .ok items.reverse else .error Interpreter.overflowError)

/-- **The layout of an unlocking script.** For every branch of the set, the unlocking script is
built along the branch's path as `UnlocksAlong` says: it fails only for a kind with no unlocker,
a failing unlocker, or a broken size limit; otherwise it is push-only, and where no element of
the data or the combined script is the single zero byte it leaves on the stack the unlocking
data, the decisions from the innermost to the outermost and the combined script, byte for byte,
when there are at most 1000 of them. -/
theorem unlockingScript_layout (registry : Registry) (s : Signer)
    (hs : s.branch < s.set.numBranches) :
    ∃ path, s.set.pathFor s.branch = .ok path ∧ s.UnlocksAlong registry path := by
  have hpath : s.set.pathFor s.branch = .ok (s.set.shape.nesting.path s.branch) := by
    simpa using s.set.pathFor_eq_ok (i := s.branch) ⟨by omega, by exact_mod_cast hs⟩
  refine ⟨_, hpath, ?_⟩
  dsimp only [UnlocksAlong]
  split
  · rename_i e hu
    exact ⟨Registry.eq_noUnlocker_of_lookup hu, unlockingScript_of_lookup_error hu⟩
  · rename_i u hu
    split
    · rename_i e hd
      exact unlockingScript_of_unlock_error hu hd
    · rename_i data hd
      rw [unlockingScript_of_data hu hd hpath]
      have hlimits := firstError_unlockPushes_eq_none_iff data
        (s.set.shape.nesting.path s.branch) s.set.script
      split
      · rename_i hbroken
        -- a broken limit is the build's first error
        cases he : Push.firstError 0 (unlockPushes data _ s.set.script) with
        | none =>
          obtain ⟨hle, hlen⟩ := hlimits.1 he
          rcases hbroken with ⟨d, hd, hlt⟩ | hlt
          · exact absurd (hle d hd) (by omega)
          · exact absurd hlen (by omega)
        | some e => exact ⟨e, by simp [Push.build, he]⟩
      · rename_i hfit
        simp only [not_or, not_exists, not_and, not_lt] at hfit
        have hnone := hlimits.2 ⟨fun d hd => hfit.1 d hd, hfit.2⟩
        obtain ⟨hscript, hpush, hrun⟩ :=
          pushesItems_flatMap_encodeData _ (length_le_of_mem_unlockItems hfit.1)
        refine ⟨_, by simp [Push.build, hnone, flatMap_encode_unlockPushes], hscript, hpush,
          fun hzero ctx => ?_⟩
        -- off the single zero byte every item comes back from its push as it is
        rw [hrun ctx, map_pushedItem_unlockItems hzero]

end Signer

/-- Two branches of one key each; the second is reached by one `false` decision. -/
def twoKeySet : BranchSet where
  branches := [⟨BranchKind.pubKey, [0x51]⟩, ⟨BranchKind.pubKey, [0x52]⟩]
  shape := ⟨2, Nat.two_pos⟩
  script := [0x63, 0x51, 0x67, 0x52, 0x68]
  folded := rfl

/-- The second of two branches, with one signature: the layout holds along its path. -/
theorem unlockingScript_layout_second_branch :
    let s : Signer := ⟨twoKeySet, 1, [⟨⟨0, 0⟩, some [0x30, 0x01]⟩], false⟩
    s.branch < s.set.numBranches ∧
      ∃ path, s.set.pathFor s.branch = .ok path ∧ s.UnlocksAlong Registry.standard path :=
  ⟨by decide, Signer.unlockingScript_layout Registry.standard _ (by decide)⟩

/-- One branch of one key: the combined script is the branch script. -/
def oneKeySet : BranchSet where
  branches := [⟨BranchKind.pubKey, [0x51]⟩]
  shape := ⟨1, Nat.one_pos⟩
  script := [0x51]
  folded := rfl

-- A signature that is the single zero byte is written as `OP_0`: the unlocker gives it as the
-- unlocking data, yet the unlocking script of the one branch leaves the empty item under the
-- combined script where the signature was meant to be.
example :
    Unlocker.pubKey.unlockData [0x51] [⟨⟨0, 0⟩, some [0x00]⟩] = .ok [[0x00]] ∧
      (Signer.mk oneKeySet 0 [⟨⟨0, 0⟩, some [0x00]⟩] false).unlockingScript Registry.standard =
        .ok [0x00, 0x01, 0x51] ∧
      Interpreter.runScript ⟨⟨1, [⟨⟨[], 0⟩, [], 0xffffffff⟩], [], 0⟩, 0⟩ [] [0x00, 0x01, 0x51] =
        .ok [[0x51], []] := by
  decide +kernel

end BranchLock
