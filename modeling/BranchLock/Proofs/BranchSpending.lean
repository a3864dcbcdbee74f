import Mathlib
import BranchLock.Proofs.PayToHash
import BranchLock.Proofs.AssemblerCalls
import BranchLock.Proofs.UnspendableSets

/-!
# Spending a pay-to-pubkey-hash branch of a set

A set's output is spent through one of its branches: the assembler chooses the branch, the key
of a pay-to-pubkey-hash branch signs, and finalizing attaches the unlocking script. Whether the
interpreter then accepts the input depends on the whole combined script and not only on the
branch chosen: it counts the opcodes of every arm against its limit of 201, and it refuses a
disabled opcode, `OP_VERIF` and `OP_VERNOTIF` in arms that do not run too. A set is `Runnable`
when its branch scripts read completely and hold neither conditionals nor such opcodes, and its
combined script fits one stack element with at most 201 counted opcodes.

`p2pkh_branch_spendable`: for a runnable set, a key whose hash one of its pay-to-pubkey-hash
branches pays to, and a transaction with an input 0, choosing that branch, contributing the
key's signature and finalizing all succeed, and the input passes its check against the set's
output. It assumes of the curve arithmetic what `PrivateKey.SignsFor` says: both forms of the
key read back, and the key's signature over the signature hash verifies. It also asks that the
combined script not push that very signature, which the interpreter refuses as script code
that is not constant.

A set that is not runnable can fail although the size of its combined script is well within the
element limit: `catenated_branch_blocks_spend` is a set of 29 bytes whose other branch is a lone
`OP_CAT`, for which the same calls succeed and the input fails its check.

The route:

* the calls succeed and attach the unlocking script of the record (`Assembler.spend_calls`);
* that script is the pushes of the signature, the key, the decisions and the combined script
  (`Signer.unlockingScript_payToPubKeyHash`), which it leaves on the stack
  (`Interpreter.runScript_unlockItems`);
* the combined script runs the chosen branch on them (`BranchSet.runScript_script`,
  `Interpreter.runsFrom_payToPubKeyHash`), and the output script accepts
  (`Transaction.checkInput_payToScriptHash`).
-/

namespace BranchLock

/-! ## Sets the interpreter runs through every branch -/

/-- A set whose combined script the interpreter runs through whichever branch a spend takes:
the branch scripts read completely and hold neither conditionals nor opcodes refused wherever
they stand, the combined script fits one stack element, and over all its arms it counts at most
201 opcodes. -/
structure BranchSet.Runnable (S : BranchSet) : Prop where
  /-- Every branch script reads, without conditionals or refused opcodes. -/
  plain : S.PlainBranches
  /-- The combined script fits one stack element. -/
  size : S.script.length ≤ maxElementSize
  /-- The combined script counts at most 201 opcodes over all its arms. -/
  ops : Script.opCount S.script ≤ 201

namespace BranchSet

variable {S : BranchSet}

/-- Every token of a branch script is a token of the combined script. -/
theorem mem_parse_script (hplain : S.PlainBranches) {i : Nat} {b : Branch}
    (hb : S.branches[i]? = some b) {t : Token} (ht : t ∈ (Script.parse b.script).1) :
    t ∈ (Script.parse S.script).1 := by
  obtain ⟨hi, -⟩ := List.getElem?_eq_some_iff.1 hb
  have htok : S.branchTokens i = (Script.parse b.script).1 := by
    simp [branchTokens, List.getD_eq_getElem?_getD, hb]
  have hn : S.shape.numBranches = S.branches.length := S.shape_numBranches
  rw [parse_script hplain]
  apply mem_tokens_leftLeaning (j := i)
  · omega
  · rw [htok]
    exact ht

/-- The combined script of a set with a pay-to-pubkey-hash branch is neither empty nor the
single zero byte: it holds the branch's `OP_DUP`. -/
theorem script_ne_of_payToPubKeyHash (hplain : S.PlainBranches) {i : Nat} {h : Bytes}
    (hh : h.length = 20) (hb : S.branches[i]? = some ⟨.pubKeyHash, Script.payToPubKeyHash h⟩) :
    S.script ≠ [] ∧ S.script ≠ [0] := by
  have hdup : Token.op Opcode.opDup ∈ (Script.parse S.script).1 :=
    mem_parse_script hplain hb (by simp [Script.parse_payToPubKeyHash hh])
  constructor
  · intro h0
    rw [h0, Script.parse_nil] at hdup
    cases hdup
  · intro h0
    rw [h0, Script.parse_cons_of_none 0 rfl, Script.parse_nil] at hdup
    simp [Opcode.opDup] at hdup

/-- A branch of a runnable set lies under at most 67 conditionals: each conditional counts its
three opcodes against the limit of 201. -/
theorem Runnable.length_path_le (hS : S.Runnable) (i : Nat) :
    (S.shape.nesting.path i).length ≤ 67 := by
  have hops := hS.ops
  have hcount := countP_tokens_leftLeaning_ge S.branchTokens (S.shape.numBranches - 1)
  have hpath := Nesting.length_path_leftLeaning_le (S.shape.numBranches - 1) i
  rw [Script.opCount, parse_script hS.plain] at hops
  dsimp only at hops
  unfold Shape.nesting at hops ⊢
  omega

end BranchSet

/-! ## The unlocking script of a pay-to-pubkey-hash branch -/

/-- The key form the pay-to-pubkey-hash unlocker pushes, for a branch paying to the hash of one
of the key's forms, hashes as that form does and is one of the two forms. -/
theorem Unlocker.keyForHash_of_hash {key : PublicKey} {kb : Bytes}
    (hkb : kb = key.compressed ∨ kb = key.uncompressed) :
    hash160 (keyForHash key (some (hash160 kb))) = hash160 kb ∧
      (keyForHash key (some (hash160 kb)) = key.compressed ∨
        keyForHash key (some (hash160 kb)) = key.uncompressed) := by
  unfold keyForHash
  dsimp only
  split_ifs with hc hu
  · exact ⟨hc, .inl rfl⟩
  · exact ⟨hu, .inr rfl⟩
  · rcases hkb with rfl | rfl
    · exact absurd rfl hc
    · exact absurd rfl hu

/-- The key form the pay-to-pubkey-hash unlocker pushes is 33 or 65 bytes long. -/
theorem Unlocker.length_keyForHash (key : PublicKey) (h : Option Bytes) :
    33 ≤ (keyForHash key h).length ∧ (keyForHash key h).length ≤ 65 := by
  unfold keyForHash
  split
  · simp
  · split_ifs <;> simp

/-- A decision is pushed as one opcode. -/
theorem Push.length_encodeData_ofBool (d : Bool) :
    (Push.encodeData (Bytes.ofBool d)).length = 1 := by
  cases d <;> rfl

/-- The decisions of a path are pushed in one byte each. -/
theorem Push.length_flatMap_decisions (path : List Bool) :
    ((path.map Bytes.ofBool).flatMap Push.encodeData).length = path.length := by
  induction path with
  | nil => rfl
  | cons d path ih =>
    rw [List.map_cons, List.flatMap_cons, List.length_append, length_encodeData_ofBool, ih,
      List.length_cons]
    omega

/-- A signature with its hash type byte is 9 to 73 bytes long. -/
theorem Signature.length_toDer_append (sig : Signature) (ht : UInt8) :
    9 ≤ (sig.toDer ++ [ht]).length ∧ (sig.toDer ++ [ht]).length ≤ 73 := by
  have h := sig.length_toDer
  simp only [List.length_append, List.length_singleton]
  omega

/-- The unlocking items of a pay-to-pubkey-hash branch, a signature with its hash type, a key
and a combined script within the element limit, take at most `667` bytes besides one byte per
decision. -/
theorem length_unlockItems_payToPubKeyHash (sig : Signature) (ht : UInt8) {kb C : Bytes}
    (path : List Bool) (hkb : kb.length ≤ 65) (hC : C.length ≤ maxElementSize) :
    ((unlockItems [sig.toDer ++ [ht], kb] path C).flatMap Push.encodeData).length ≤
      667 + path.length := by
  have hsig := (sig.length_toDer_append ht).2
  have h₁ := Push.length_encodeData_le (sig.toDer ++ [ht]) (by omega)
  have h₂ := Push.length_encodeData_le kb (by omega)
  have h₃ := Push.length_encodeData_le C (by unfold maxElementSize at hC; omega)
  have h₄ := Push.length_flatMap_decisions path.reverse
  unfold maxElementSize at hC
  simp only [unlockItems, List.cons_append, List.nil_append, List.flatMap_cons,
    List.flatMap_append, List.flatMap_nil, List.append_nil, List.length_append,
    List.length_reverse] at h₄ ⊢
  omega

/-- The items of a pay-to-pubkey-hash unlocking script, a signature with its hash type, a key of
at most 65 bytes and a combined script within the element limit, each fit one element. -/
theorem length_le_of_mem_payToPubKeyHash_items (sig : Signature) (ht : UInt8) {kb C : Bytes}
    (hkb : kb.length ≤ 65) (hC : C.length ≤ maxElementSize) :
    ∀ d ∈ [sig.toDer ++ [ht], kb] ++ [C], d.length ≤ maxElementSize := by
  have hsig := (sig.length_toDer_append ht).2
  intro d hd
  simp only [List.cons_append, List.nil_append, List.mem_cons, List.not_mem_nil, or_false] at hd
  unfold maxElementSize at hC ⊢
  rcases hd with rfl | rfl | rfl <;> omega

/-- **The unlocking script of a pay-to-pubkey-hash branch.** With one signature contributed, a
combined script within the element limit and a path of at most 996 decisions, the unlocking
script is the canonical pushes of the signature, the key form the branch's hash asks for, the
decisions and the combined script. -/
theorem Signer.unlockingScript_payToPubKeyHash {S : BranchSet} {i : Nat} {h : Bytes}
    (hh : h.length = 20) (hb : S.branches[i]? = some ⟨.pubKeyHash, Script.payToPubKeyHash h⟩)
    (hsize : S.script.length ≤ maxElementSize) (hdepth : (S.shape.nesting.path i).length ≤ 996)
    (key : PublicKey) (sig : Signature) (ht : UInt8) :
    ({ set := S, branch := i, contributions := [⟨key, some (sig.toDer ++ [ht])⟩] } :
        Signer).unlockingScript Registry.standard =
      .ok ((unlockItems [sig.toDer ++ [ht], Unlocker.keyForHash key (some h)]
        (S.shape.nesting.path i) S.script).flatMap Push.encodeData) := by
  obtain ⟨hi, -⟩ := List.getElem?_eq_some_iff.1 hb
  have hget : S.branches.getD i ⟨.nonStandard, []⟩ =
      ⟨.pubKeyHash, Script.payToPubKeyHash h⟩ := by
    simp [List.getD_eq_getElem?_getD, hb]
  have hkey := Unlocker.length_keyForHash key (some h)
  have hsig := sig.length_toDer_append ht
  apply Signer.unlockingScript_of_fit (u := Unlocker.pubKeyHash)
  · rw [hget]
    rfl
  · rw [hget]
    simp [Unlocker.pubKeyHash, Script.pushedData_payToPubKeyHash hh]
  · simpa using S.pathFor_eq_ok (i := i) ⟨by omega, by exact_mod_cast hi⟩
  · exact length_le_of_mem_payToPubKeyHash_items sig ht hkey.2 hsize
  · have hlen := length_unlockItems_payToPubKeyHash sig ht (S.shape.nesting.path i) hkey.2 hsize
    dsimp only
    unfold maxScriptSize
    omega

/-- **The run of an unlocking script.** Where the data and the combined script fit an element
and none is the single zero byte, and there are fewer than 1000 items with the decisions, the
unlocking script leaves the combined script on top of the decisions, outermost first, and the
data, last pushed first. -/
theorem Interpreter.runScript_unlockItems (ctx : Spending) (path : List Bool) {data : List Bytes}
    {C : Bytes} (hle : ∀ d ∈ data ++ [C], d.length ≤ maxElementSize)
    (hzero : ∀ d ∈ data ++ [C], d ≠ [0x00]) (hcount : data.length + path.length < 1000) :
    runScript ctx [] ((unlockItems data path C).flatMap Push.encodeData) =
      .ok (C :: (path.map Bytes.ofBool ++ data.reverse)) := by
  obtain ⟨-, -, hrun⟩ := pushesItems_flatMap_encodeData _ (length_le_of_mem_unlockItems hle)
  have hlen : (unlockItems data path C).length ≤ 1000 := by
    simp only [unlockItems, List.length_append, List.length_map, List.length_reverse,
      List.length_singleton]
    omega
  rw [hrun ctx, if_pos hlen, map_pushedItem_unlockItems hzero]
  simp [unlockItems, List.reverse_append, List.map_reverse]

/-! ## The calls of a spend -/

namespace Assembler

/-- **Choosing, signing and finalizing.** On a fresh assembler over a transaction with an input
0, choosing branch `i` of a set whose combined script reads, contributing a key's signature for
the branch's script, with hash type all, and finalizing all succeed when the unlocking script of
the record with that signature builds. The transaction they leave has that script attached to
input 0, and the input's record is finalized. -/
theorem spend_calls (registry : Registry) (tx0 : Transaction) (h0 : 0 < tx0.inputs.length)
    {S : BranchSet} {i : Nat} {b : Branch} (hb : S.branches[i]? = some b)
    (hread : (Script.parse S.script).2 = none) (k : PrivateKey) {U : Bytes}
    (hU : ({ set := S, branch := i, contributions := [⟨k.publicKey, some
      ((k.sign (tx0.sigHash 0 S.script SigHash.all)).toDer ++ [UInt8.ofNat SigHash.all])⟩] } :
        Signer).unlockingScript registry = .ok U) :
    ∃ a₁ a₂ a₃, (⟨tx0, []⟩ : Assembler).selectBranch 0 (some S) i S.numBranches = .ok a₁ ∧
      a₁.contributeSignature 0 k S.script 0 b.script = .ok a₂ ∧
      a₂.finalize registry = .ok a₃ ∧ a₃.tx = tx0.setSigScript 0 U ∧
      a₃.signer? 0 = some ⟨S, i, [⟨k.publicKey, some
        ((k.sign (tx0.sigHash 0 S.script SigHash.all)).toDer ++ [UInt8.ofNat SigHash.all])⟩],
        true⟩ := by
  obtain ⟨hi, -⟩ := List.getElem?_eq_some_iff.1 hb
  have hts : Script.tokens S.script = .ok (Script.parse S.script).1 :=
    Script.tokens_eq_ok_iff.2 (Prod.ext rfl hread)
  let sig := (k.sign (tx0.sigHash 0 S.script SigHash.all)).toDer ++ [UInt8.ofNat SigHash.all]
  let s₁ : Signer := { set := S, branch := i }
  let s₂ : Signer := { s₁ with contributions := [⟨k.publicKey, some sig⟩] }
  let a₁ := (⟨tx0, []⟩ : Assembler).setSigner 0 s₁
  let a₂ := a₁.setSigner 0 s₂
  have h₁ : (⟨tx0, []⟩ : Assembler).selectBranch 0 (some S) i S.numBranches = .ok a₁ := by
    refine selectBranch_eq_ok_iff.2 ⟨⟨le_refl _, by exact_mod_cast h0⟩, ⟨by omega, ?_⟩, S, rfl,
      rfl, by simp [inputState, signer?], rfl⟩
    unfold BranchSet.numBranches
    exact_mod_cast hi
  have hsign : a₁.tx.signInput 0 S.script SigHash.all k = .ok sig := by
    simp [a₁, Transaction.signInput, hts, bind, Except.bind, pure, Except.pure, sig]
  have h₂ : a₁.contributeSignature 0 k S.script 0 b.script = .ok a₂ :=
    contributeSignature_eq_ok_iff.2 ⟨s₁, by simp [a₁, signer?_setSigner], rfl, rfl,
      by simp [s₁, hb], sig, hsign, rfl⟩
  have hpending : a₂.pending = [0] := by
    simp [a₂, a₁, pending, setSigner, s₂, s₁]
  have hs₂ : a₂.signer? 0 = some s₂ := by
    simp [a₂, signer?_setSigner]
  have hU₂ : s₂.unlockingScript registry = .ok U := hU
  have h₃ : a₂.finalize registry = .ok (a₂.attach 0 s₂ U) := by
    refine finalize_eq_ok_iff.2 ⟨[(0, s₂, U)], ?_, rfl⟩
    simp [hpending, unlockingScripts, hs₂, hU₂, bind, Except.bind, pure, Except.pure]
  refine ⟨a₁, a₂, _, h₁, h₂, h₃, rfl, ?_⟩
  rw [signer?_attach]
  rfl

end Assembler

/-! ## Spending a branch -/

/-- What a spend assumes of the curve arithmetic for a key and the message it signs: both forms
of the public key read back as the key, and the key's signature over the message verifies. -/
structure PrivateKey.SignsFor (k : PrivateKey) (m : Bytes) : Prop where
  /-- The compressed form reads back. -/
  parseCompressed : PublicKey.parse k.publicKey.compressed = .ok k.publicKey
  /-- The uncompressed form reads back. -/
  parseUncompressed : PublicKey.parse k.publicKey.uncompressed = .ok k.publicKey
  /-- The signature over `m` verifies. -/
  verifies : k.publicKey.verify m (k.sign m) = true

/-- A key's signature with hash type all over the signature hash of the running script passes
every check `OP_CHECKSIG` makes, against either form of the key, when the script does not push
it. -/
theorem Interpreter.signatureChecks_sign (ctx : Spending) {script kb m : Bytes} {k : PrivateKey}
    (hm : ctx.tx.sigHash ctx.index script SigHash.all = m)
    (hkb : kb = k.publicKey.compressed ∨ kb = k.publicKey.uncompressed) (hcurve : k.SignsFor m)
    (hconst : (Script.removeData ((k.sign m).toDer ++ [UInt8.ofNat SigHash.all]) script).2 =
      false) :
    SignatureChecks ctx script kb (k.sign m).toDer (UInt8.ofNat SigHash.all) where
  hashType := rfl
  encoding := PrivateKey.checkSignature_sign k m
  keyForm := by
    rcases hkb with rfl | rfl
    · exact Policy.checkPubKey_compressed _
    · exact Policy.checkPubKey_uncompressed _
  valid := by
    obtain ⟨hr, hs⟩ := PublicKey.bounds_of_verify hcurve.verifies
    have hparse : PublicKey.parse kb = .ok k.publicKey := by
      rcases hkb with rfl | rfl
      · exact hcurve.parseCompressed
      · exact hcurve.parseUncompressed
    refine ⟨k.publicKey, k.sign m, hparse, Signature.ofDer?_toDer _ hr hs, ?_⟩
    rw [show (UInt8.ofNat SigHash.all).toNat = SigHash.all from rfl, hm]
    exact hcurve.verifies
  notPushed := hconst

/-- **The combined script through a pay-to-pubkey-hash branch.** Given the decisions that
reach a pay-to-pubkey-hash branch of a runnable set over a key whose hash the branch pays to and
a signature that passes the checks of `OP_CHECKSIG`, the combined script leaves exactly true. -/
theorem BranchSet.runScript_payToPubKeyHash (ctx : Spending) {S : BranchSet} (hS : S.Runnable)
    {i : Nat} {kb der : Bytes} {ht : UInt8}
    (hb : S.branches[i]? = some ⟨.pubKeyHash, Script.payToPubKeyHash (hash160 kb)⟩)
    (hchecks : Interpreter.SignatureChecks ctx S.script kb der ht) :
    Interpreter.runScript ctx ((S.shape.nesting.path i).map Bytes.ofBool ++ [kb, der ++ [ht]])
      S.script = .ok [[1]] := by
  have hdepth := hS.length_path_le i
  apply runScript_script ctx hS.plain hS.size hS.ops hb
    (Interpreter.runsFrom_payToPubKeyHash hchecks)
  · simp
  · simp only [List.length_cons, List.length_nil]
    omega

/-- **An input spending a pay-to-pubkey-hash branch passes its check.** An input whose unlocking
script pushes a signature, a key of 33 or 65 bytes whose hash a pay-to-pubkey-hash branch of a
runnable set pays to, the decisions to that branch and the combined script, passes its check
against the set's output when the signature passes the checks of `OP_CHECKSIG`. -/
theorem Transaction.checkInput_payToPubKeyHash {tx : Transaction} {k : Nat}
    (hk : k < tx.inputs.length) {S : BranchSet} (hS : S.Runnable) {i : Nat} {kb : Bytes}
    (hb : S.branches[i]? = some ⟨.pubKeyHash, Script.payToPubKeyHash (hash160 kb)⟩)
    (hkb : 33 ≤ kb.length ∧ kb.length ≤ 65) {sig : Signature} {ht : UInt8}
    (hsigScript : (tx.inputs.get ⟨k, hk⟩).sigScript =
      (unlockItems [sig.toDer ++ [ht], kb] (S.shape.nesting.path i) S.script).flatMap
        Push.encodeData)
    (hchecks : Interpreter.SignatureChecks ⟨tx, k⟩ S.script kb sig.toDer ht) :
    tx.checkInput k S.pkScript = .ok () := by
  obtain ⟨hne, hne0⟩ := BranchSet.script_ne_of_payToPubKeyHash hS.plain (hash160_length kb) hb
  have hdepth := hS.length_path_le i
  have hsig := sig.length_toDer_append ht
  have hle := length_le_of_mem_payToPubKeyHash_items sig ht hkb.2 hS.size
  -- no pushed element is the single zero byte, which would be pushed as the empty one
  have hzero : ∀ d ∈ [sig.toDer ++ [ht], kb] ++ [S.script], d ≠ [0x00] := by
    intro d hd
    simp only [List.cons_append, List.nil_append, List.mem_cons, List.not_mem_nil,
      or_false] at hd
    rcases hd with rfl | rfl | rfl
    · exact fun h => by simp [h] at hsig
    · exact fun h => by simp [h] at hkb
    · exact hne0
  have hrunU := Interpreter.runScript_unlockItems ⟨tx, k⟩ (S.shape.nesting.path i) hle hzero
    (by simp only [List.length_cons, List.length_nil]; omega)
  obtain ⟨-, hpush, -⟩ := pushesItems_flatMap_encodeData _ (length_le_of_mem_unlockItems hle)
  have hUlen := length_unlockItems_payToPubKeyHash sig ht (S.shape.nesting.path i) hkb.2 hS.size
  have hrest : ((S.shape.nesting.path i).map Bytes.ofBool ++ [kb, sig.toDer ++ [ht]]).length ≤
      998 := by
    simp only [List.length_append, List.length_map, List.length_cons, List.length_nil]
    omega
  exact Transaction.checkInput_payToScriptHash hk hsigScript hpush
    (by unfold maxScriptSize; omega) hrunU hrest hne
    (BranchSet.runScript_payToPubKeyHash _ hS hb hchecks) (by decide)

/-- **Every pay-to-pubkey-hash branch of a runnable set is spendable.** Take a runnable set, a
branch of it that pays to the hash of the compressed or the uncompressed form of a key's public
key, and a transaction with an input 0. On a fresh assembler, choosing the branch, contributing
the key's signature for it and finalizing succeed, and the input then passes its check against
the set's output, given what `PrivateKey.SignsFor` assumes of the curve and that the combined
script does not push the signature. -/
theorem p2pkh_branch_spendable (tx0 : Transaction) (h0 : 0 < tx0.inputs.length) {S : BranchSet}
    (hS : S.Runnable) {i : Nat} {kb : Bytes} (k : PrivateKey)
    (hkb : kb = k.publicKey.compressed ∨ kb = k.publicKey.uncompressed)
    (hb : S.branches[i]? = some ⟨.pubKeyHash, Script.payToPubKeyHash (hash160 kb)⟩)
    (hcurve : k.SignsFor (tx0.sigHash 0 S.script SigHash.all))
    (hconst : (Script.removeData ((k.sign (tx0.sigHash 0 S.script SigHash.all)).toDer ++
      [UInt8.ofNat SigHash.all]) S.script).2 = false) :
    ∃ a₁ a₂ a₃, (⟨tx0, []⟩ : Assembler).selectBranch 0 (some S) i S.numBranches = .ok a₁ ∧
      a₁.contributeSignature 0 k S.script 0 (Script.payToPubKeyHash (hash160 kb)) = .ok a₂ ∧
      a₂.finalize Registry.standard = .ok a₃ ∧ a₃.tx.verifyInput 0 S.pkScript = .ok () := by
  have hdepth := hS.length_path_le i
  have hU := Signer.unlockingScript_payToPubKeyHash (hash160_length kb) hb hS.size (by omega)
    k.publicKey (k.sign (tx0.sigHash 0 S.script SigHash.all)) (UInt8.ofNat SigHash.all)
  obtain ⟨a₁, a₂, a₃, h₁, h₂, h₃, htx, -⟩ := Assembler.spend_calls Registry.standard tx0 h0 hb
    (by rw [BranchSet.parse_script hS.plain]) k hU
  refine ⟨a₁, a₂, a₃, h₁, h₂, h₃, ?_⟩
  -- the unlocking script pushes the key form whose hash the branch pays to
  obtain ⟨hkeyHash, hkeyForm⟩ := Unlocker.keyForHash_of_hash hkb
  have hkbLen := Unlocker.length_keyForHash k.publicKey (some (hash160 kb))
  generalize Unlocker.keyForHash k.publicKey (some (hash160 kb)) = kb'
    at hkeyHash hkeyForm hkbLen htx
  rw [← hkeyHash] at hb
  rw [htx]
  generalize hU' : (unlockItems _ _ S.script).flatMap Push.encodeData = U
  have hk : 0 < (tx0.setSigScript 0 U).inputs.length := by simpa using h0
  -- the signature was made before the script was attached, over the same signature hash
  have hchecks := Interpreter.signatureChecks_sign ⟨tx0.setSigScript 0 U, 0⟩
    (Transaction.sigHash_setSigScript ..) hkeyForm hcurve hconst
  have hcheck : (tx0.setSigScript 0 U).checkInput 0 S.pkScript = .ok () :=
    Transaction.checkInput_payToPubKeyHash hk hS hb hkbLen
      (by rw [Transaction.sigScript_setSigScript, hU']) hchecks
  unfold Transaction.verifyInput
  rw [hcheck]
  rfl

/-! ## A spend through the second branch of a set -/

/-- A private key. -/
def spendKey : PrivateKey :=
  ⟨85989183134987950454696915330088911919552000568801488299079109254995982943724⟩

/-- The hash of the compressed form of `spendKey`'s public key. -/
def spendKeyHash : Bytes :=
  [0xa2, 0xf2, 0x6f, 0xaf, 0x63, 0x9c, 0x9a, 0x7e, 0x6a, 0x3a, 0xe5, 0x07, 0x6b, 0xf7, 0xbb, 0xbf,
    0x6c, 0xf1, 0x73, 0x2a]

/-- A transaction of one input. -/
def spendTx : Transaction := ⟨1, [⟨⟨[], 0⟩, [], 0xffffffff⟩], [], 0⟩

/-- Two branches: the true script, and a pay-to-pubkey-hash branch of `spendKey`, reached by one
false decision. -/
def spendSet : BranchSet where
  branches := [⟨.nonStandard, [0x51]⟩, ⟨.pubKeyHash, Script.payToPubKeyHash spendKeyHash⟩]
  shape := ⟨2, by decide⟩
  script := [0x63, 0x51, 0x67, 0x76, 0xa9, 0x14] ++ spendKeyHash ++ [0x88, 0xac, 0x68]
  folded := rfl

/-- The signature hash of `spendTx`'s input over `spendSet`'s combined script, hash type all. -/
def spendMessage : Bytes :=
  [0xf2, 0x83, 0x24, 0x22, 0x26, 0x82, 0x62, 0x69, 0xba, 0x60, 0x37, 0xc0, 0x8f, 0xdb, 0x11, 0xe9,
    0xc4, 0x5f, 0xd0, 0x65, 0xe8, 0x60, 0x18, 0x8e, 0x48, 0x79, 0x8b, 0xb2, 0x03, 0x2e, 0x3c, 0xb9]

/-- `spendKey`'s signature over `spendMessage`. -/
def spendSignature : Signature :=
  ⟨14248342411760914094730379714987934075297335921035041516750012580039100582798,
    36139125809531398560571512085501654361051826378875985244547583280966586834648⟩

/-- `spendKeyHash` is the hash of the compressed form of `spendKey`'s public key. -/
theorem hash160_spendKey : hash160 spendKey.publicKey.compressed = spendKeyHash := by
  decide +kernel

/-- `spendMessage` is the signature hash of `spendTx`'s input over `spendSet`'s script. -/
theorem sigHash_spendTx : spendTx.sigHash 0 spendSet.script SigHash.all = spendMessage := by
  decide +kernel

/-- The HMAC key after the first step of `spendKey`'s nonce for `spendMessage`. -/
def nonceKey1 : Bytes :=
  [0x9e, 0xcb, 0xe8, 0x2c, 0x7f, 0xdf, 0x04, 0x2c, 0x18, 0x68, 0xf1, 0x91, 0x66, 0x0b, 0x84, 0x6e,
    0x22, 0x13, 0x7f, 0x8a, 0xef, 0x74, 0x82, 0x51, 0xc4, 0x41, 0x50, 0xfa, 0xf9, 0x7c, 0x75, 0x1d]

/-- The HMAC value after the first step of the same nonce. -/
def nonceValue1 : Bytes :=
  [0x83, 0x3f, 0x9b, 0xd4, 0x1d, 0x01, 0xc9, 0xfe, 0x54, 0xf9, 0xe2, 0x72, 0xfa, 0xd0, 0x72, 0x6f,
    0x99, 0xc0, 0xd6, 0xcc, 0x77, 0x7a, 0x60, 0xe3, 0x68, 0xe6, 0x12, 0x5f, 0x8c, 0x33, 0xad, 0xa1]

/-- The HMAC key after the second step of the same nonce. -/
def nonceKey2 : Bytes :=
  [0x8d, 0x49, 0xce, 0x55, 0x3c, 0x9f, 0x0a, 0x06, 0x56, 0xec, 0xca, 0x9c, 0xe4, 0x1a, 0x22, 0x67,
    0xd9, 0x55, 0x5f, 0x28, 0x91, 0x15, 0xec, 0x6f, 0x05, 0x8a, 0x93, 0x46, 0x63, 0xae, 0x0e, 0x95]

/-- The HMAC value after the second step of the same nonce. -/
def nonceValue2 : Bytes :=
  [0x94, 0x45, 0x37, 0x05, 0x4d, 0xf3, 0x2e, 0x6a, 0x85, 0x7d, 0x47, 0xf9, 0x08, 0x85, 0x51, 0xe5,
    0xde, 0xfc, 0x3f, 0xed, 0x4d, 0x17, 0xa6, 0x96, 0x33, 0xf7, 0x1b, 0x3a, 0xbd, 0x32, 0x68, 0x59]

/-- The first candidate of the same nonce, which lies in `[1, n)`. -/
def nonceValue3 : Bytes :=
  [0x86, 0xaa, 0x95, 0x64, 0x6b, 0x4e, 0xca, 0xae, 0xb0, 0xb3, 0x14, 0x97, 0xe1, 0xde, 0xff, 0x01,
    0x97, 0xf3, 0x41, 0xd5, 0xf1, 0xa5, 0x13, 0xaa, 0xe7, 0xd3, 0xcf, 0xfd, 0x53, 0xc5, 0x37, 0x3b]

/-- `spendKey`'s nonce for `spendMessage` is its first candidate. -/
theorem deterministicNonce_spendMessage :
    deterministicNonce spendKey spendMessage = Bytes.toNatBE nonceValue3 := by
  -- Each HMAC is its own kernel check, so that no one check holds the whole chain.
  have hk1 : hmacSha256 (List.replicate 32 0) (List.replicate 32 1 ++ [0] ++
      spendKey.toBytes ++ Bytes.ofNatBE 32 (Bytes.toNatBE spendMessage % Secp256k1.n)) =
      nonceKey1 := by
    decide +kernel
  have hv1 : hmacSha256 nonceKey1 (List.replicate 32 1) = nonceValue1 := by decide +kernel
  have hk2 : hmacSha256 nonceKey1 (nonceValue1 ++ [1] ++ spendKey.toBytes ++
      Bytes.ofNatBE 32 (Bytes.toNatBE spendMessage % Secp256k1.n)) = nonceKey2 := by
    decide +kernel
  have hv2 : hmacSha256 nonceKey2 nonceValue1 = nonceValue2 := by decide +kernel
  have hv3 : hmacSha256 nonceKey2 nonceValue2 = nonceValue3 := by decide +kernel
  unfold deterministicNonce
  simp only [hk1, hv1, hk2, hv2]
  rw [deterministicNonce.attempt, hv3]
  exact if_pos (by decide +kernel)

/-- `spendSignature` is `spendKey`'s signature over `spendMessage`. -/
theorem sign_spendMessage : spendKey.sign spendMessage = spendSignature := by
  unfold PrivateKey.sign
  rw [deterministicNonce_spendMessage]
  decide +kernel

/-- `spendKey` signs `spendMessage` as the curve assumption asks. -/
theorem signsFor_spendMessage : spendKey.SignsFor spendMessage := by
  refine ⟨Assembler.Call.toOption_eq_some.1 (by decide +kernel),
    Assembler.Call.toOption_eq_some.1 (by decide +kernel), ?_⟩
  rw [sign_spendMessage]
  decide +kernel

/-- `spendKey` spends the pay-to-pubkey-hash branch of `spendSet`: the set is runnable, the key
signs as the curve assumption asks, and the calls succeed with an input that passes its
check. -/
theorem p2pkh_branch_spendable_second_branch :
    spendSet.Runnable ∧ spendKey.SignsFor (spendTx.sigHash 0 spendSet.script SigHash.all) ∧
      ∃ a₁ a₂ a₃, (⟨spendTx, []⟩ : Assembler).selectBranch 0 (some spendSet) 1
          spendSet.numBranches = .ok a₁ ∧
        a₁.contributeSignature 0 spendKey spendSet.script 0
          (Script.payToPubKeyHash (hash160 spendKey.publicKey.compressed)) = .ok a₂ ∧
        a₂.finalize Registry.standard = .ok a₃ ∧
        a₃.tx.verifyInput 0 spendSet.pkScript = .ok () := by
  have hS : spendSet.Runnable := by
    refine ⟨?_, by decide, by decide +kernel⟩
    intro b hb
    simp only [spendSet, List.mem_cons, List.not_mem_nil, or_false] at hb
    rcases hb with rfl | rfl
    · refine ⟨[.op 0x51], Script.tokens_eq_ok_iff.2 ?_, by decide⟩
      simp only [Script.parse_cons_of_none 0x51 rfl, Script.parse_nil]
    · exact ⟨_, Script.tokens_eq_ok_iff.2 (Script.parse_payToPubKeyHash rfl), by decide⟩
  have hcurve : spendKey.SignsFor (spendTx.sigHash 0 spendSet.script SigHash.all) := by
    rw [sigHash_spendTx]
    exact signsFor_spendMessage
  have hconst : (Script.removeData ((spendKey.sign (spendTx.sigHash 0 spendSet.script
      SigHash.all)).toDer ++ [UInt8.ofNat SigHash.all]) spendSet.script).2 = false := by
    rw [sigHash_spendTx, sign_spendMessage]
    decide +kernel
  have hb : spendSet.branches[1]? =
      some ⟨.pubKeyHash, Script.payToPubKeyHash (hash160 spendKey.publicKey.compressed)⟩ := by
    rw [hash160_spendKey]
    rfl
  exact ⟨hS, hcurve, p2pkh_branch_spendable spendTx (by decide) hS spendKey (.inl rfl) hb
    hcurve hconst⟩

/-- Two branches: a pay-to-pubkey-hash branch of `spendKey`, and a lone concatenation, which is
disabled. -/
def catenatedSet : BranchSet where
  branches := [⟨.pubKeyHash, Script.payToPubKeyHash spendKeyHash⟩, ⟨.nonStandard, [0x7e]⟩]
  shape := ⟨2, by decide⟩
  script := [0x63, 0x76, 0xa9, 0x14] ++ spendKeyHash ++ [0x88, 0xac, 0x67, 0x7e, 0x68]
  folded := rfl

/-- **The size limit is not the only limit on a spend.** The combined script of `catenatedSet`
is 29 bytes and its first branch pays to the hash of the compressed form of `spendKey`'s public
key. Choosing that branch, contributing `spendKey`'s signature and finalizing all succeed, and
yet the input fails its check: the interpreter refuses the `OP_CAT` of the arm that does not
run. -/
theorem catenated_branch_blocks_spend :
    catenatedSet.script.length ≤ maxElementSize ∧
      catenatedSet.branches[0]? =
        some ⟨.pubKeyHash, Script.payToPubKeyHash (hash160 spendKey.publicKey.compressed)⟩ ∧
      ∃ a₁ a₂ a₃, (⟨spendTx, []⟩ : Assembler).selectBranch 0 (some catenatedSet) 0
          catenatedSet.numBranches = .ok a₁ ∧
        a₁.contributeSignature 0 spendKey catenatedSet.script 0
          (Script.payToPubKeyHash (hash160 spendKey.publicKey.compressed)) = .ok a₂ ∧
        a₂.finalize Registry.standard = .ok a₃ ∧
        ∃ e, a₃.tx.verifyInput 0 catenatedSet.pkScript = .error e := by
  have hsize : catenatedSet.script.length ≤ maxElementSize := by decide
  have hb : catenatedSet.branches[0]? =
      some ⟨.pubKeyHash, Script.payToPubKeyHash (hash160 spendKey.publicKey.compressed)⟩ := by
    rw [hash160_spendKey]
    rfl
  have hU := Signer.unlockingScript_payToPubKeyHash (hash160_length _) hb hsize (by decide)
    spendKey.publicKey (spendKey.sign (spendTx.sigHash 0 catenatedSet.script SigHash.all))
    (UInt8.ofNat SigHash.all)
  obtain ⟨a₁, a₂, a₃, h₁, h₂, h₃, -, hs⟩ := Assembler.spend_calls Registry.standard spendTx
    (by decide) hb (by decide +kernel) spendKey hU
  have h₁' : (⟨spendTx, []⟩ : Assembler).selectBranch 0 (some catenatedSet) 0
      catenatedSet.numBranches = .ok a₁ := h₁
  refine ⟨hsize, hb, a₁, a₂, a₃, h₁', h₂, h₃, ?_⟩
  -- the three calls as a run of the assembler, which finalizes the input for the set
  have hcalls : (⟨spendTx, []⟩ : Assembler).runCalls Registry.standard
      [.selectBranch 0 (some catenatedSet) 0 catenatedSet.numBranches,
        .contributeSignature 0 spendKey catenatedSet.script 0
          (Script.payToPubKeyHash (hash160 spendKey.publicKey.compressed)),
        .finalize] = a₃ := by
    rw [Assembler.runCalls_cons, Assembler.Call.apply_of_exec_some
        (c := .selectBranch _ _ _ _) (Assembler.Call.toOption_eq_some.2 h₁'),
      Assembler.runCalls_cons, Assembler.Call.apply_of_exec_some
        (c := .contributeSignature _ _ _ _ _) (Assembler.Call.toOption_eq_some.2 h₂),
      Assembler.runCalls_cons, Assembler.Call.apply_of_exec_some
        (c := .finalize) (Assembler.Call.toOption_eq_some.2 h₃), Assembler.runCalls_nil]
  have hrefused : Script.holdsRefusedOpcode catenatedSet.script = true := by decide +kernel
  rw [← hcalls] at hs ⊢
  have hfails := refused_set_never_verifies Registry.standard spendTx _ 0 _ hs rfl hrefused
  exact hfails

end BranchLock
