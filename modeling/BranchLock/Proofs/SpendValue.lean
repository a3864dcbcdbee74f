import Mathlib
import BranchLock.Tool.Spend
import BranchLock.Proofs.AssemblerLifecycle
import BranchLock.Proofs.UnlockingScripts

/-!
# What a spend pays out

A spend pays the value of the output it spends, less the fee, to one address. The difference
is taken in 64-bit arithmetic, and the only check on it is that it is positive: neither the fee
nor the amount is checked on its own. Nothing after that check changes the output: choosing
the branch, signing and building only write the unlocking script, and the script check only
reads the transaction.

* `buildSpend_eq_ok`: a spend that succeeds has passed the check and has exactly the output of
  its unsigned transaction, through the assembler's lifecycle invariant (`Lifecycle`), which
  keeps the outputs along every call.
* `spend_output_value`: so its one output pays the wrapped difference, which is positive; where
  the difference does not wrap it is `amount - fee`, at most the amount exactly when the fee is
  not negative.
* `negative_fee_pays_out_more`: a negative fee is taken as it is, and the spend pays out more
  than the output holds.
-/

namespace BranchLock

/-! ## Differences of amounts -/

namespace Amount

/-- A difference within the 64-bit range is its own wrap. -/
theorem wrap64_of_mem {x : Int} (hlo : minInt64 ≤ x) (hhi : x < (Nat.pow 2 63 : Nat)) :
    wrap64 x = x := by
  have h63 : ((Nat.pow 2 63 : Nat) : Int) = 9223372036854775808 := rfl
  have h64 : ((Nat.pow 2 64 : Nat) : Int) = 18446744073709551616 := rfl
  have hmin : minInt64 = -9223372036854775808 := rfl
  rw [h63] at hhi
  rw [hmin] at hlo
  unfold wrap64
  rw [h64, h63]
  -- a negative difference is stored as its residue, and taken back by the subtraction
  by_cases hx : 0 ≤ x
  · rw [Int.emod_eq_of_lt hx (by omega), if_neg (by omega)]
  · have hmod : x % 18446744073709551616 = x + 18446744073709551616 := by omega
    rw [hmod, if_pos (by omega)]
    omega

end Amount

/-! ## Spends that succeed -/

namespace Assembler.Lifecycle

variable {registry : Registry} {tx0 : Transaction}

/-- Signing with one key after another keeps the invariant. -/
theorem signAll {a a' : Assembler} (h : Lifecycle registry tx0 a) {combined branchScript : Bytes}
    {keys : List PrivateKey} (hsign : BranchLock.signAll combined branchScript a keys = .ok a') :
    Lifecycle registry tx0 a' := by
  induction keys generalizing a with
  | nil =>
    cases hsign
    exact h
  | cons k ks ih =>
    obtain ⟨a1, h1, hrest⟩ := Except.bind_eq_ok.1 hsign
    have hc : (Call.contributeSignature 0 k combined SigHash.all branchScript).exec registry a =
        some a1 := Call.toOption_eq_some.2 h1
    have h1' := h.apply (.contributeSignature 0 k combined SigHash.all branchScript)
    rw [Call.apply_of_exec_some hc] at h1'
    exact ih h1' hrest

end Assembler.Lifecycle

/-- Building succeeds exactly when finalizing does, and hands out the finalized transaction. -/
theorem Assembler.build_eq_ok {registry : Registry} {a a' : Assembler} {t : Transaction} :
    a.build registry = .ok (t, a') ↔ a.finalize registry = .ok a' ∧ t = a'.tx := by
  unfold Assembler.build
  cases a.finalize registry with
  | error e => simp [Except.map]
  | ok b =>
    simp only [Except.map, Except.ok.injEq, Prod.mk.injEq]
    constructor
    · rintro ⟨rfl, rfl⟩
      exact ⟨rfl, rfl⟩
    · rintro ⟨rfl, rfl⟩
      exact ⟨rfl, rfl⟩

/-- A spend that succeeds passed the check that the difference is positive, and its outputs are
those of its unsigned transaction: the one output paying the difference to the address. -/
theorem buildSpend_eq_ok {registry : Registry} {req : SpendRequest} {tx : Transaction}
    (h : buildSpend registry req = .ok tx) :
    0 < (req.amount.sub req.fee).satoshis ∧
      tx.outputs = [⟨(req.amount.sub req.fee).satoshis, req.payTo.outputScript⟩] := by
  unfold buildSpend at h
  by_cases hpos : (req.amount.sub req.fee).satoshis ≤ 0
  · simp [hpos, throw, throwThe, MonadExceptOf.throw, bind, Except.bind] at h
  refine ⟨by omega, ?_⟩
  simp only [hpos, if_false] at h
  obtain ⟨_, -, h⟩ := Except.bind_eq_ok.1 h
  obtain ⟨a1, hsel, h⟩ := Except.bind_eq_ok.1 h
  obtain ⟨a2, hsign, h⟩ := Except.bind_eq_ok.1 h
  obtain ⟨⟨signed, a3⟩, hbuild, h⟩ := Except.bind_eq_ok.1 h
  obtain ⟨_, -, h⟩ := Except.bind_eq_ok.1 h
  cases h
  -- the transaction handed out is the one the assembler kept, whose outputs never change
  let tx0 := req.unsigned (req.amount.sub req.fee)
  have hsel' : (Assembler.Call.selectBranch 0 (some req.set) req.branch
      req.set.numBranches).exec registry ⟨tx0, []⟩ = some a1 :=
    Assembler.Call.toOption_eq_some.2 (Except.mapError_eq_ok.1 hsel)
  have h1 := (Assembler.lifecycle_new registry tx0).apply
    (.selectBranch 0 (some req.set) req.branch req.set.numBranches)
  rw [Assembler.Call.apply_of_exec_some hsel'] at h1
  have h2 := h1.signAll (Except.mapError_eq_ok.1 hsign)
  obtain ⟨hfin, rfl⟩ := Assembler.build_eq_ok.1 (Except.mapError_eq_ok.1 hbuild)
  rw [(h2.finalize hfin).outputs]
  rfl

/-- **What a spend pays out.** A spend that succeeds has one output, to the address, paying the
difference of the amount and the fee in 64-bit arithmetic, and that value is positive. Where
the difference does not wrap it is `amount - fee`, and it is at most the amount exactly when the
fee is not negative: a negative fee is not refused, and pays out more than is spent. -/
theorem spend_output_value {registry : Registry} {req : SpendRequest} {tx : Transaction}
    (h : buildSpend registry req = .ok tx) :
    ∃ value, tx.outputs = [⟨value, req.payTo.outputScript⟩] ∧ 0 < value ∧
      value = Amount.wrap64 (req.amount.satoshis - req.fee.satoshis) ∧
      (Amount.minInt64 ≤ req.amount.satoshis - req.fee.satoshis →
        req.amount.satoshis - req.fee.satoshis < (Nat.pow 2 63 : Nat) →
        value = req.amount.satoshis - req.fee.satoshis ∧
          (value ≤ req.amount.satoshis ↔ 0 ≤ req.fee.satoshis)) := by
  obtain ⟨hpos, hout⟩ := buildSpend_eq_ok h
  have hsub : (req.amount.sub req.fee).satoshis =
      Amount.wrap64 (req.amount.satoshis - req.fee.satoshis) := rfl
  refine ⟨_, hout, hpos, hsub, fun hlo hhi => ?_⟩
  rw [hsub, Amount.wrap64_of_mem hlo hhi]
  exact ⟨rfl, by omega⟩

/-- A spend of 100000 satoshis with a fee of -10000, through the set of one pay-to-pubkey branch
`OP_TRUE`: spent with no signature, its unlocking script is the push of its combined script. -/
def negativeFeeSpend : SpendRequest where
  set := oneKeySet
  prevOut := ⟨List.replicate 32 0, 0⟩
  amount := ⟨100000⟩
  fee := ⟨-10000⟩
  payTo := .pubKeyHash (List.replicate 20 0) 0
  branch := 0
  keys := []
  lockTime := 0

/-- The transaction `negativeFeeSpend` builds: 110000 satoshis to the address. -/
def negativeFeeTx : Transaction where
  version := 1
  inputs := [⟨⟨List.replicate 32 0, 0⟩, [0x01, 0x51], 0xffffffff⟩]
  outputs := [⟨110000, Script.payToPubKeyHash (List.replicate 20 0)⟩]
  lockTime := 0

/-- The spend with the negative fee builds, by evaluation. -/
theorem buildSpend_negativeFeeSpend :
    buildSpend Registry.standard negativeFeeSpend = .ok negativeFeeTx := by
  decide +kernel

/-- A fee of -10000 satoshis on an output of 100000 is accepted, checked and signed, and the
spend pays out 110000 satoshis. -/
theorem negative_fee_pays_out_more :
    buildSpend Registry.standard negativeFeeSpend = .ok negativeFeeTx ∧
      negativeFeeTx.outputs.map (·.value) = [110000] ∧
      negativeFeeSpend.amount.satoshis < 110000 :=
  ⟨buildSpend_negativeFeeSpend, rfl, by decide⟩

/-- The spend with the fee of -10000 pays 110000, its amount less its fee, above its amount. -/
theorem spend_output_value_negative_fee :
    buildSpend Registry.standard negativeFeeSpend = .ok negativeFeeTx ∧
      Amount.minInt64 ≤ negativeFeeSpend.amount.satoshis - negativeFeeSpend.fee.satoshis ∧
      negativeFeeSpend.amount.satoshis - negativeFeeSpend.fee.satoshis < (Nat.pow 2 63 : Nat) ∧
      ∃ value, negativeFeeTx.outputs = [⟨value, negativeFeeSpend.payTo.outputScript⟩] ∧
        0 < value ∧
        value = Amount.wrap64 (negativeFeeSpend.amount.satoshis - negativeFeeSpend.fee.satoshis) ∧
        value = negativeFeeSpend.amount.satoshis - negativeFeeSpend.fee.satoshis ∧
        ¬ value ≤ negativeFeeSpend.amount.satoshis := by
  obtain ⟨value, hout, hpos, hwrap, hdiff⟩ := spend_output_value buildSpend_negativeFeeSpend
  have hlo : Amount.minInt64 ≤ negativeFeeSpend.amount.satoshis -
      negativeFeeSpend.fee.satoshis := by decide
  have hhi : negativeFeeSpend.amount.satoshis - negativeFeeSpend.fee.satoshis <
      (Nat.pow 2 63 : Nat) := by decide
  obtain ⟨hv, hle⟩ := hdiff hlo hhi
  have hfee : ¬ (0 ≤ negativeFeeSpend.fee.satoshis) := by decide
  exact ⟨buildSpend_negativeFeeSpend, hlo, hhi, value, hout, hpos, hwrap, hv,
    fun h => hfee (hle.1 h)⟩

end BranchLock
