import Mathlib
import BranchLock.Proofs.ConditionalExecution
import BranchLock.Proofs.UnlockingScripts
import BranchLock.Proofs.SignatureEncoding
import BranchLock.Spend.Verify

/-!
# The interpreter on pay-to-pubkey-hash and pay-to-script-hash scripts

A branch of kind pay-to-pubkey-hash is the script `OP_DUP OP_HASH160 <h> OP_EQUALVERIFY
OP_CHECKSIG`, and the output of a set is `OP_HASH160 <h> OP_EQUAL`. This module runs the
interpreter over both:

* from a key whose hash is `h` over a signature, the branch script leaves true when the
  signature check passes (`Interpreter.runsFrom_payToPubKeyHash`); the check passes for a
  signature and key in the accepted encodings that parse, verify over the signature hash of
  the running script, and are not pushed by that script (`Interpreter.checkSig_of_valid`);
* the output script, on a stack whose top is the script it hashes, leaves true
  (`Interpreter.runScript_payToScriptHash`);
* an input whose unlocking script is push-only and leaves a redeem script on top, and whose
  redeem script then leaves exactly true, passes its check against the output that pays to the
  redeem script's hash (`Transaction.checkInput_payToScriptHash`);
* the signature hash of an input does not read the unlocking scripts
  (`Transaction.sigHash_setSigScript`), so attaching one keeps a signature made before valid.
-/

namespace BranchLock

/-! ## Reading the standard scripts -/

/-- The data-free opcodes of the two standard scripts. -/
theorem Opcode.dataLength_standard :
    Opcode.dataLength Opcode.opDup = .none ∧ Opcode.dataLength Opcode.opHash160 = .none ∧
      Opcode.dataLength Opcode.opEqualVerify = .none ∧
      Opcode.dataLength Opcode.opCheckSig = .none ∧ Opcode.dataLength Opcode.opEqual = .none :=
  ⟨rfl, rfl, rfl, rfl, rfl⟩

/-- The push of a 20-byte hash reads as one token, and reading goes on after it. -/
theorem Token.next_hash {h : Bytes} (hh : h.length = 20) (rest : Bytes) :
    Token.next 0x14 (h ++ rest) = .ok (.push 0x14 h, rest) := by
  have hdl : Opcode.dataLength 0x14 = .fixed 20 := rfl
  simp [Token.next, hdl, hh, List.take_left', List.drop_left']

/-- The pay-to-pubkey-hash script of a 20-byte hash reads as its five tokens. -/
theorem Script.parse_payToPubKeyHash {h : Bytes} (hh : h.length = 20) :
    Script.parse (Script.payToPubKeyHash h) =
      ([.op Opcode.opDup, .op Opcode.opHash160, .push 0x14 h, .op Opcode.opEqualVerify,
        .op Opcode.opCheckSig], none) := by
  obtain ⟨hdup, hhash, heqv, hcs, -⟩ := Opcode.dataLength_standard
  simp only [Script.payToPubKeyHash, List.cons_append, List.nil_append]
  rw [Script.parse_cons_of_none _ hdup, Script.parse_cons_of_none _ hhash,
    Script.parse_cons_of_next (Token.next_hash hh _), Script.parse_cons_of_none _ heqv,
    Script.parse_cons_of_none _ hcs, Script.parse_nil]

/-- The pay-to-script-hash script of a 20-byte hash reads as its three tokens. -/
theorem Script.parse_payToScriptHash {h : Bytes} (hh : h.length = 20) :
    Script.parse (Script.payToScriptHash h) =
      ([.op Opcode.opHash160, .push 0x14 h, .op Opcode.opEqual], none) := by
  obtain ⟨-, hhash, -, -, heq⟩ := Opcode.dataLength_standard
  simp only [Script.payToScriptHash, List.cons_append, List.nil_append]
  rw [Script.parse_cons_of_none _ hhash, Script.parse_cons_of_next (Token.next_hash hh _),
    Script.parse_cons_of_none _ heq, Script.parse_nil]

/-- The only data a pay-to-pubkey-hash script pushes is its hash. -/
theorem Script.pushedData_payToPubKeyHash {h : Bytes} (hh : h.length = 20) :
    Script.pushedData (Script.payToPubKeyHash h) = .ok [h] := by
  simp only [Script.pushedData, Script.tokens, Script.parse_payToPubKeyHash hh]
  rfl

/-- A pay-to-script-hash script of a 20-byte hash is recognised as one. -/
theorem Script.isPayToScriptHash_payToScriptHash {h : Bytes} (hh : h.length = 20) :
    Script.isPayToScriptHash (Script.payToScriptHash h) = true := by
  simp [Script.payToScriptHash, Script.isPayToScriptHash, hh, Opcode.opHash160, Opcode.opEqual]

/-- A pay-to-script-hash script is no witness program. -/
theorem Script.witnessProgram?_payToScriptHash (h : Bytes) :
    Script.witnessProgram? (Script.payToScriptHash h) = none := by
  simp [Script.payToScriptHash, Script.witnessProgram?, Script.isCountOp, Opcode.opHash160,
    Opcode.op0, Opcode.op1, Opcode.op16]

/-- A search for a signature that finds none leaves the script whole. -/
theorem Script.removeData_of_snd {d s : Bytes} (h : (Script.removeData d s).2 = false) :
    Script.removeData d s = (s, false) := by
  unfold Script.removeData at h ⊢
  simp only at h ⊢
  split_ifs at h ⊢ <;> simp_all

namespace Interpreter

variable {ctx : Spending}

/-! ## The steps of the standard scripts -/

/-- `OP_DUP` copies the top item. -/
theorem step_dup (v : Bytes) (s a : Stack) (bs : List Branching) (o : Nat) (sc : Bytes)
    (hex : (Machine.mk (v :: s) a bs o sc).executing = true) (hops : o + 1 ≤ 201)
    (hdepth : s.length + 2 + a.length ≤ 1000) :
    step ctx ⟨v :: s, a, bs, o, sc⟩ (.op Opcode.opDup) = .ok ⟨v :: v :: s, a, bs, o + 1, sc⟩ :=
  step_of_counted (by decide) (by decide) hops (.inl hex)
    (by simp [run, Token.opcode, Opcode.opDup, Stack.dup, Stack.copyUp, Stack.peek, bind,
      Except.bind, pure, Except.pure]) (by simp; omega)

/-- `OP_HASH160` replaces the top item by its hash. -/
theorem step_hash160 (v : Bytes) (s a : Stack) (bs : List Branching) (o : Nat) (sc : Bytes)
    (hex : (Machine.mk (v :: s) a bs o sc).executing = true) (hops : o + 1 ≤ 201)
    (hdepth : s.length + 1 + a.length ≤ 1000) :
    step ctx ⟨v :: s, a, bs, o, sc⟩ (.op Opcode.opHash160) =
      .ok ⟨hash160 v :: s, a, bs, o + 1, sc⟩ :=
  step_of_counted (by decide) (by decide) hops (.inl hex)
    (by simp [run, Token.opcode, Opcode.opHash160, Stack.pop, Stack.nip, bind, Except.bind, pure,
      Except.pure]) (by simp; omega)

/-- `OP_EQUAL` replaces the top two items by whether they are equal. -/
theorem step_equal (x y : Bytes) (s a : Stack) (bs : List Branching) (o : Nat) (sc : Bytes)
    (hex : (Machine.mk (x :: y :: s) a bs o sc).executing = true) (hops : o + 1 ≤ 201)
    (hdepth : s.length + 1 + a.length ≤ 1000) :
    step ctx ⟨x :: y :: s, a, bs, o, sc⟩ (.op Opcode.opEqual) =
      .ok ⟨Bytes.ofBool (decide (x = y)) :: s, a, bs, o + 1, sc⟩ :=
  step_of_counted (by decide) (by decide) hops (.inl hex)
    (by simp [run, Token.opcode, Opcode.opEqual, Stack.pop, Stack.nip, bind, Except.bind, pure,
      Except.pure]) (by simp; omega)

/-- `OP_EQUALVERIFY` on two equal items removes them. -/
theorem step_equalVerify (x : Bytes) (s a : Stack) (bs : List Branching) (o : Nat) (sc : Bytes)
    (hex : (Machine.mk (x :: x :: s) a bs o sc).executing = true) (hops : o + 1 ≤ 201)
    (hdepth : s.length + a.length ≤ 1000) :
    step ctx ⟨x :: x :: s, a, bs, o, sc⟩ (.op Opcode.opEqualVerify) = .ok ⟨s, a, bs, o + 1, sc⟩ :=
  step_of_counted (by decide) (by decide) hops (.inl hex)
    (by simp [run, Token.opcode, Opcode.opEqualVerify, Stack.pop, Stack.nip, verifyTop,
      Stack.popBool, Bytes.ofBool, Bytes.asBool, bind, Except.bind, pure, Except.pure]) hdepth

/-- The push of a 20-byte hash, where it runs, pushes the hash. -/
theorem step_pushHash (h : Bytes) (hh : h.length = 20) (s a : Stack) (bs : List Branching)
    (o : Nat) (sc : Bytes) (hex : (Machine.mk s a bs o sc).executing = true)
    (hdepth : s.length + 1 + a.length ≤ 1000) :
    step ctx ⟨s, a, bs, o, sc⟩ (.push 0x14 h) = .ok ⟨h :: s, a, bs, o, sc⟩ := by
  have hmin : minimalPushError 0x14 h = none := by
    simp [minimalPushError, hh]
  rw [step_of_minimal (t := .push 0x14 h) (by simp only [Token.opcode]; decide)
    (by simp [Token.data?, hh, maxElementSize]) hex (fun _ => hmin)]
  simp only [run, bind, Except.bind, pure, Except.pure, Machine.push]
  rw [if_neg (by simp; omega)]

/-! ## The signature check -/

/-- **`OP_CHECKSIG` succeeds** on a key and a signature that pass the encoding checks and parse,
when the running script does not push the signature and the signature verifies over the
signature hash of the running script: it pushes true. -/
theorem checkSig_of_valid {m : Machine} {kb der : Bytes} {ht : UInt8} {rest : Stack}
    {key : PublicKey} {sig : Signature} (hst : m.stack = kb :: (der ++ [ht]) :: rest)
    (hht : Policy.checkHashType ht = .ok ()) (hder : Policy.checkSignature der = .ok ())
    (hkey : Policy.checkPubKey kb = .ok ()) (hparse : PublicKey.parse kb = .ok key)
    (hsig : Signature.ofDer? der = some sig)
    (hconst : (Script.removeData (der ++ [ht]) m.script).2 = false)
    (hvalid : key.verify (ctx.tx.sigHash ctx.index m.script ht.toNat) sig = true) :
    checkSig ctx m = .ok { m with stack := [1] :: rest } := by
  have hrem := Script.removeData_of_snd hconst
  unfold checkSig
  simp [hst, Stack.pop, Stack.nip, hht, hder, hkey, hparse, hsig, hrem, signatureValid, hvalid,
    Machine.push, Bytes.ofBool, bind, Except.bind, pure, Except.pure]

/-- The signature check of a pay-to-pubkey-hash branch, as the conditions it needs. -/
structure SignatureChecks (ctx : Spending) (script kb der : Bytes) (ht : UInt8) : Prop where
  /-- The hash type is one the policy accepts. -/
  hashType : Policy.checkHashType ht = .ok ()
  /-- The signature is strict DER with a low `s`. -/
  encoding : Policy.checkSignature der = .ok ()
  /-- The key is compressed or uncompressed. -/
  keyForm : Policy.checkPubKey kb = .ok ()
  /-- The key parses, the signature reads, and it verifies over the signature hash. -/
  valid : ∃ key sig, PublicKey.parse kb = .ok key ∧ Signature.ofDer? der = some sig ∧
    key.verify (ctx.tx.sigHash ctx.index script ht.toNat) sig = true
  /-- The running script does not push the signature. -/
  notPushed : (Script.removeData (der ++ [ht]) script).2 = false

/-- `OP_CHECKSIG` as a step: on a key over a signature that pass the checks, it pushes true. -/
theorem step_checkSig {kb der : Bytes} {ht : UInt8} (s a : Stack) (bs : List Branching) (o : Nat)
    (sc : Bytes) (hex : (Machine.mk (kb :: (der ++ [ht]) :: s) a bs o sc).executing = true)
    (hops : o + 1 ≤ 201) (hdepth : s.length + 1 + a.length ≤ 1000)
    (hchecks : SignatureChecks ctx sc kb der ht) :
    step ctx ⟨kb :: (der ++ [ht]) :: s, a, bs, o, sc⟩ (.op Opcode.opCheckSig) =
      .ok ⟨[1] :: s, a, bs, o + 1, sc⟩ := by
  obtain ⟨hht, hder, hkey, ⟨key, sig, hparse, hsig, hvalid⟩, hconst⟩ := hchecks
  refine step_of_counted (by decide) (by decide) hops (.inl hex) ?_ (by simp; omega)
  have hrun : run ctx ⟨kb :: (der ++ [ht]) :: s, a, bs, o + 1, sc⟩ (.op Opcode.opCheckSig) =
      checkSig ctx ⟨kb :: (der ++ [ht]) :: s, a, bs, o + 1, sc⟩ := by
    simp [run, Token.opcode, Opcode.opCheckSig]
  rw [hrun, checkSig_of_valid (m := ⟨kb :: (der ++ [ht]) :: s, a, bs, o + 1, sc⟩) rfl hht hder hkey
    hparse hsig hconst hvalid]

/-- **The pay-to-pubkey-hash branch runs.** From a key whose hash is the branch's over a
signature that passes the checks, the branch's tokens leave exactly true, counting their four
opcodes. -/
theorem runsFrom_payToPubKeyHash {script kb der : Bytes} {ht : UInt8}
    (hchecks : SignatureChecks ctx script kb der ht) :
    RunsFrom ctx script (Script.parse (Script.payToPubKeyHash (hash160 kb))).1
      [kb, der ++ [ht]] [[1]] := by
  intro m hex hst halt hscript hops
  obtain ⟨stack, alt, bs, o, sc⟩ := m
  simp only at hst halt hscript hops ⊢
  subst hst halt hscript
  rw [Script.parse_payToPubKeyHash (hash160_length kb)] at hops ⊢
  have hcount : ([Token.op Opcode.opDup, .op Opcode.opHash160, .push 0x14 (hash160 kb),
      .op Opcode.opEqualVerify, .op Opcode.opCheckSig] : List Token).countP Token.counted = 4 := rfl
  rw [hcount] at hops ⊢
  -- the five tokens one by one: the key is copied, hashed, compared, and checked
  have h20 := hash160_length kb
  rw [runTokens_cons_of_step (step_dup kb [der ++ [ht]] [] bs o sc hex (by omega) (by simp)),
    runTokens_cons_of_step
      (step_hash160 kb [kb, der ++ [ht]] [] bs (o + 1) sc hex (by omega) (by simp)),
    runTokens_cons_of_step
      (step_pushHash _ h20 [hash160 kb, kb, der ++ [ht]] [] bs (o + 2) sc hex (by simp)),
    runTokens_cons_of_step
      (step_equalVerify _ [kb, der ++ [ht]] [] bs (o + 2) sc hex (by omega) (by simp)),
    runTokens_cons_of_step (step_checkSig [] [] bs (o + 3) sc hex (by omega) (by simp) hchecks)]
  rfl

/-- **The output script of a set runs.** On a stack whose top is a script, the
pay-to-script-hash script of that script's hash leaves true above the rest. -/
theorem runScript_payToScriptHash (redeem : Bytes) (rest : Stack) (hdepth : rest.length ≤ 998) :
    runScript ctx (redeem :: rest) (Script.payToScriptHash (hash160 redeem)) =
      .ok ([1] :: rest) := by
  unfold runScript
  rw [Script.tokens_eq_ok_iff.2 (Script.parse_payToScriptHash (hash160_length redeem))]
  simp only [Except.mapError_ok, bind, Except.bind]
  rw [runTokens_cons_of_step (step_hash160 _ _ _ _ _ _ rfl (by omega) (by simp; omega)),
    runTokens_cons_of_step (step_pushHash _ (hash160_length redeem) _ _ _ _ _ rfl (by simp; omega)),
    runTokens_cons_of_step (step_equal _ _ _ _ _ _ _ rfl (by omega) (by simp; omega))]
  simp [runTokens, Bytes.ofBool, pure, Except.pure]

/-- A script that runs reads. -/
theorem tokens_of_runScript {stack r : Stack} {bs : Bytes} (h : runScript ctx stack bs = .ok r) :
    ∃ ts, Script.tokens bs = .ok ts := by
  unfold runScript at h
  cases ht : Script.tokens bs with
  | ok ts => exact ⟨ts, rfl⟩
  | error e => simp [ht, bind, Except.bind, Except.mapError] at h

end Interpreter

/-! ## Checking an input that pays to a script hash -/

/-- Numbering a list and mapping it ignores a change to one element that the map does not see. -/
theorem List.map_zipIdx_modify {α β : Type} {f : α → α} {F : α × Nat → β}
    (hF : ∀ a j, F (f a, j) = F (a, j)) (l : List α) (k : Nat) :
    (l.modify k f).zipIdx.map F = l.zipIdx.map F := by
  apply List.ext_getElem (by simp)
  intro j h₁ h₂
  simp only [List.getElem_map, List.getElem_zipIdx, List.getElem_modify]
  split <;> simp [hF]

/-- The signature hash replaces every unlocking script, so attaching one changes no hash. -/
theorem Transaction.sigHash_setSigScript (tx : Transaction) (k : Nat) (s : Bytes) (idx : Nat)
    (script : Bytes) (ht : Nat) :
    (tx.setSigScript k s).sigHash idx script ht = tx.sigHash idx script ht := by
  unfold Transaction.sigHash Transaction.setSigScript
  simp only
  rw [List.map_zipIdx_modify]
  -- the numbered inputs are mapped by a function that reads no unlocking script
  intro i j
  rfl

/-- The input a script is attached to carries it. -/
theorem Transaction.sigScript_setSigScript (tx : Transaction) (k : Nat) (s : Bytes)
    (hk : k < (tx.setSigScript k s).inputs.length) :
    ((tx.setSigScript k s).inputs.get ⟨k, hk⟩).sigScript = s := by
  simp [Transaction.setSigScript]

/-- **An input that pays to a script hash passes its check** when its unlocking script is
push-only, fits, and leaves a redeem script over the rest, and that redeem script, run on the
rest, leaves exactly one true item. -/
theorem Transaction.checkInput_payToScriptHash {tx : Transaction} {k : Nat}
    (hk : k < tx.inputs.length) {sig redeem v : Bytes} {rest : Stack}
    (hsigScript : (tx.inputs.get ⟨k, hk⟩).sigScript = sig) (hpush : Script.isPushOnly sig = true)
    (hsize : sig.length ≤ maxScriptSize)
    (hsig : Interpreter.runScript ⟨tx, k⟩ [] sig = .ok (redeem :: rest))
    (hdepth : rest.length ≤ 998) (hredeem : redeem ≠ [])
    (hrun : Interpreter.runScript ⟨tx, k⟩ rest redeem = .ok [v]) (hv : v.asBool = true) :
    tx.checkInput k (Script.payToScriptHash (hash160 redeem)) = .ok () := by
  have h20 := hash160_length redeem
  have hwit := Script.witnessProgram?_payToScriptHash (hash160 redeem)
  have hp := Script.isPayToScriptHash_payToScriptHash h20
  have hpkTokens := Script.tokens_eq_ok_iff.2 (Script.parse_payToScriptHash h20)
  have hpkRun : Interpreter.runScript ⟨tx, k⟩ (redeem :: rest)
      (Script.payToScriptHash (hash160 redeem)) = .ok ([1] :: rest) :=
    Interpreter.runScript_payToScriptHash redeem rest hdepth
  obtain ⟨ts, hts⟩ := Interpreter.tokens_of_runScript hsig
  obtain ⟨rts, hrts⟩ := Interpreter.tokens_of_runScript hrun
  unfold Transaction.checkInput
  rw [dif_pos ⟨by omega, by simpa using hk⟩]
  simp only [Int.toNat_natCast, hp, hsigScript]
  -- the unlocking script is not empty: it leaves the redeem script
  have hne : sig.isEmpty = false := by
    cases sig with
    | nil => simp [Interpreter.runScript, Script.tokens, Interpreter.runTokens,
        bind, Except.bind, Except.mapError, pure, Except.pure] at hsig
    | cons => rfl
  have hrne : redeem.isEmpty = false := List.isEmpty_eq_false_iff.2 hredeem
  have hpkLen : ¬ maxScriptSize < (Script.payToScriptHash (hash160 redeem)).length := by
    simp [Script.payToScriptHash, h20, maxScriptSize]
  have hsize' : ¬ maxScriptSize < sig.length := by omega
  have hpkne : Script.payToScriptHash (hash160 redeem) ≠ [] := by
    simp [Script.payToScriptHash]
  have htrue : Bytes.asBool [1] = true := by decide
  simp [throw, throwThe, MonadExceptOf.throw, bind, Except.bind, pure, Except.pure,
    List.forIn_cons, List.forIn_nil, hne, hpush, hsize', hts, hwit, hsig, hpkLen, hpkTokens,
    hpkne, hpkRun, htrue, hrts, hrne, hrun, hv, finalCheck, Except.mapError]

end BranchLock
