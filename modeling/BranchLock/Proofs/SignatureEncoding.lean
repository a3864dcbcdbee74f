import Mathlib
import BranchLock.Curve.Ecdsa
import BranchLock.Script.Signature

/-!
# Signatures and keys in the forms the interpreter accepts

The interpreter checks the encodings of what a signature check pops before it looks at the
signature itself: the signature must be strict DER with a low `s`, the key compressed or
uncompressed. This module shows that what the signer of this library produces passes those
checks, for every key and message:

* a DER integer is the 33 big-endian bytes of a number with a zero in front, stripped of every
  zero byte that the next byte's clear top bit makes superfluous; what is left keeps the value,
  is not empty and is exactly the body the check wants (`Signature.isDerInt_derInt`,
  `Signature.toNatBE_derInt`);
* a signature laid out from two such bodies passes the layout check when its `s` is at most half
  the group order (`Signature.checkSignature_layout`), and the signer normalises `s` to that half
  (`PrivateKey.sign_s_le_halfOrder`), so every signature it makes passes
  (`PrivateKey.checkSignature_sign`);
* a signature with both values in `[1, n)` reads back from its DER form
  (`Signature.ofDer?_toDer`), and a signature that verifies has such values
  (`PublicKey.bounds_of_verify`);
* both written forms of a key pass the key check (`Policy.checkPubKey_compressed`,
  `Policy.checkPubKey_uncompressed`).
-/

namespace BranchLock

open Secp256k1

/-! ## DER integers -/

namespace Signature

/-- The body of a DER integer as the strict encoding check wants it: not empty, its first byte's
top bit clear, and no zero byte in front that the next byte would make superfluous. -/
def IsDerInt (bs : Bytes) : Prop :=
  bs ≠ [] ∧ bs.getD 0 0 &&& 0x80 = 0 ∧
    ¬(1 < bs.length ∧ bs.getD 0 0 = 0 ∧ bs.getD 1 0 &&& 0x80 = 0)

/-- One step of stripping: a leading zero goes when the next byte's top bit is clear. -/
theorem strip_cons_cons (a b : UInt8) (rest : Bytes) :
    derInt.strip (a :: b :: rest) =
      if a = 0 ∧ b &&& 0x80 = 0 then derInt.strip (b :: rest) else a :: b :: rest := rfl

/-- Stripping leaves the big-endian value as it is. -/
theorem toNatBE_strip (bs : Bytes) : Bytes.toNatBE (derInt.strip bs) = Bytes.toNatBE bs := by
  -- The strip recurses on the tail, so induction on the list with the tail split once.
  induction bs with
  | nil => rfl
  | cons a tl ih =>
    cases tl with
    | nil => rfl
    | cons b rest =>
      rw [strip_cons_cons]
      split_ifs with h
      · rw [ih, h.1, Bytes.toNatBE_zero_cons]
      · rfl

/-- Stripping never lengthens. -/
theorem length_strip_le (bs : Bytes) : (derInt.strip bs).length ≤ bs.length := by
  induction bs with
  | nil => exact Nat.le_refl _
  | cons a tl ih =>
    cases tl with
    | nil => exact Nat.le_refl _
    | cons b rest =>
      rw [strip_cons_cons]
      split_ifs
      · simp only [List.length_cons] at ih ⊢
        omega
      · exact Nat.le_refl _

/-- Stripping a string whose first byte has its top bit clear leaves a DER integer body: the
strip goes on only past a zero byte followed by a byte whose top bit is clear, and stops at
the first zero byte that is needed. -/
theorem isDerInt_strip {bs : Bytes} (hne : bs ≠ []) (htop : bs.getD 0 0 &&& 0x80 = 0) :
    IsDerInt (derInt.strip bs) := by
  induction bs with
  | nil => exact absurd rfl hne
  | cons a tl ih =>
    cases tl with
    | nil =>
      -- a string of one byte has nothing to strip
      refine ⟨hne, htop, ?_⟩
      rintro ⟨hlen, -⟩
      exact Nat.lt_irrefl 1 hlen
    | cons b rest =>
      rw [strip_cons_cons]
      split_ifs with h
      · exact ih (List.cons_ne_nil _ _) h.2
      · exact ⟨List.cons_ne_nil _ _, htop, by simpa using h⟩

/-- A DER integer is the stripped 32-byte form with a zero in front. -/
theorem derInt_eq (v : Nat) : derInt v = derInt.strip (0 :: Bytes.ofNatBE 32 v) := rfl

/-- A DER integer is a body the strict encoding check accepts. -/
theorem isDerInt_derInt (v : Nat) : IsDerInt (derInt v) :=
  isDerInt_strip (List.cons_ne_nil _ _) (by simp)

/-- A DER integer has at most 33 bytes. -/
theorem length_derInt_le (v : Nat) : (derInt v).length ≤ 33 := by
  rw [derInt_eq]
  simpa using length_strip_le (0 :: Bytes.ofNatBE 32 v)

/-- A number below the group order reads back from its DER integer. -/
theorem toNatBE_derInt {v : Nat} (hv : v < n) : Bytes.toNatBE (derInt v) = v := by
  have hfit : v < Nat.pow 256 32 := Nat.lt_trans hv (by decide)
  rw [derInt_eq, toNatBE_strip, Bytes.toNatBE_zero_cons, Bytes.toNatBE_ofNatBE 32 v hfit]

/-! ## The strict layout check -/

/-- Reading at a position past a prefix reads in what follows it. -/
theorem getD_append_length {p q : Bytes} (j : Nat) :
    (p ++ q).getD (p.length + j) 0 = q.getD j 0 := by
  simp [List.getD_eq_getElem?_getD, List.getElem?_append_right]

/-- Reading at a position inside a prefix reads in the prefix. -/
theorem getD_append_of_lt {p q : Bytes} {j : Nat} (h : j < p.length) :
    (p ++ q).getD j 0 = p.getD j 0 := by
  simp [List.getD_eq_getElem?_getD, List.getElem?_append_left h]

/-- **The layout check.** The strict encoding check accepts a signature laid out as
`0x30 len 0x02 len(r) r 0x02 len(s) s` from two DER integer bodies of at most 33 bytes with
their true lengths, the value of `s` at most half the group order. -/
theorem checkSignature_layout {r s : Bytes} {len rLen sLen : UInt8}
    (hr : IsDerInt r) (hs : IsDerInt s) (hrl : r.length ≤ 33) (hsl : s.length ≤ 33)
    (hlen : len.toNat = 4 + r.length + s.length) (hrLen : rLen.toNat = r.length)
    (hsLen : sLen.toNat = s.length) (hlow : Bytes.toNatBE s ≤ Policy.halfOrder) :
    Policy.checkSignature ([0x30, len, 0x02, rLen] ++ r ++ [0x02, sLen] ++ s) = .ok () := by
  obtain ⟨hr0, hrtop, hrpad⟩ := hr
  obtain ⟨hs0, hstop, hspad⟩ := hs
  have hrpos : 0 < r.length := List.length_pos_iff.2 hr0
  have hspos : 0 < s.length := List.length_pos_iff.2 hs0
  -- the bytes the check reads, by position: the header, then `r`, then the header of `s`
  have hat : ∀ j, ([0x30, len, 0x02, rLen] ++ r ++ [0x02, sLen] ++ s).getD (4 + j) 0 =
      (r ++ [0x02, sLen] ++ s).getD j 0 := fun j => by
    rw [List.append_assoc, List.append_assoc, ← List.append_assoc r]
    exact getD_append_length (p := [0x30, len, 0x02, rLen]) j
  have hmid : ∀ j, ([0x30, len, 0x02, rLen] ++ r ++ [0x02, sLen] ++ s).getD
      (4 + r.length + j) 0 = ([0x02, sLen] ++ s).getD j 0 := fun j => by
    rw [Nat.add_assoc, hat, List.append_assoc, getD_append_length]
  have hs6 : ∀ j, ([0x30, len, 0x02, rLen] ++ r ++ [0x02, sLen] ++ s).getD
      (4 + r.length + 2 + j) 0 = s.getD j 0 := fun j => by
    rw [Nat.add_assoc (4 + r.length), hmid]
    exact getD_append_length (p := [0x02, sLen]) j
  have h0 : ([0x30, len, 0x02, rLen] ++ r ++ [0x02, sLen] ++ s).getD 0 0 = 0x30 := rfl
  have h1 : ([0x30, len, 0x02, rLen] ++ r ++ [0x02, sLen] ++ s).getD 1 0 = len := rfl
  have h2 : ([0x30, len, 0x02, rLen] ++ r ++ [0x02, sLen] ++ s).getD 2 0 = 0x02 := rfl
  have h3 : ([0x30, len, 0x02, rLen] ++ r ++ [0x02, sLen] ++ s).getD 3 0 = rLen := rfl
  have h4 : ([0x30, len, 0x02, rLen] ++ r ++ [0x02, sLen] ++ s).getD 4 0 = r.getD 0 0 := by
    rw [show 4 = 4 + 0 from rfl, hat, List.append_assoc, getD_append_of_lt hrpos]
  have h5 : 1 < r.length →
      ([0x30, len, 0x02, rLen] ++ r ++ [0x02, sLen] ++ s).getD 5 0 = r.getD 1 0 := fun hr1 => by
    rw [show 5 = 4 + 1 from rfl, hat, List.append_assoc, getD_append_of_lt hr1]
  have hsT : ([0x30, len, 0x02, rLen] ++ r ++ [0x02, sLen] ++ s).getD (4 + r.length) 0 = 0x02 :=
    by simpa using hmid 0
  have hsL : ([0x30, len, 0x02, rLen] ++ r ++ [0x02, sLen] ++ s).getD (4 + r.length + 1) 0 =
      sLen := by simpa using hmid 1
  have hs0' := hs6 0
  have hs1' := hs6 1
  have hbody : (([0x30, len, 0x02, rLen] ++ r ++ [0x02, sLen] ++ s).drop (4 + r.length + 2)).take
      s.length = s := by
    rw [show 4 + r.length + 2 = ([0x30, len, 0x02, rLen] ++ r ++ [0x02, sLen]).length by
      simp; omega, List.drop_left, List.take_length]
  have htot : ([0x30, len, 0x02, rLen] ++ r ++ [0x02, sLen] ++ s).length =
      6 + r.length + s.length := by simp; omega
  unfold Policy.checkSignature
  simp only [Nat.add_zero] at hs0'
  simp only [htot, h0, h1, h2, h3, h4, hrLen, hsT, hsL, hsLen, hs0', hs1', hbody, hlen]
  -- every length check holds, and so do the sign, padding and low-`s` checks
  have c1 : ¬(6 + r.length + s.length < 8) := by omega
  have c2 : ¬(6 + r.length + s.length > 72) := by omega
  have c3 : ¬(4 + r.length + s.length ≠ 6 + r.length + s.length - 2) := by omega
  have c4 : ¬(4 + r.length ≥ 6 + r.length + s.length) := by omega
  have c5 : ¬(4 + r.length + 1 ≥ 6 + r.length + s.length) := by omega
  have c6 : ¬(4 + r.length + 2 + s.length ≠ 6 + r.length + s.length) := by omega
  have c7 : ¬(r.length = 0) := by omega
  have c8 : ¬(s.length = 0) := by omega
  have c9 : ¬(Bytes.toNatBE s > Policy.halfOrder) := Nat.not_lt.2 hlow
  have c10 : ¬(r.length > 1 ∧ r.getD 0 0 = 0 ∧
      ([0x30, len, 0x02, rLen] ++ r ++ [0x02, sLen] ++ s).getD 5 0 &&& 128 = 0) := by
    rintro ⟨hr1, hz, h5'⟩
    exact hrpad ⟨hr1, hz, by rwa [h5 hr1] at h5'⟩
  simp only [if_neg c1, if_neg c2, if_neg c3, if_neg c4, if_neg c5, if_neg c6, if_neg c7,
    if_neg c8, if_neg c9, ne_eq, not_true_eq_false, if_false, hrtop, hstop]
  rw [if_neg c10, if_neg hspad]
  rfl

/-- The DER form of a signature is its two DER integers behind their headers. -/
theorem toDer_eq (sig : Signature) :
    sig.toDer = [0x30, UInt8.ofNat (4 + (derInt sig.r).length + (derInt sig.s).length), 0x02,
      UInt8.ofNat (derInt sig.r).length] ++ derInt sig.r ++
        [0x02, UInt8.ofNat (derInt sig.s).length] ++ derInt sig.s := rfl

/-- The DER form of a signature has between 8 and 72 bytes. -/
theorem length_toDer (sig : Signature) : 8 ≤ sig.toDer.length ∧ sig.toDer.length ≤ 72 := by
  have hr := length_derInt_le sig.r
  have hs := length_derInt_le sig.s
  have hr0 := List.length_pos_iff.2 (isDerInt_derInt sig.r).1
  have hs0 := List.length_pos_iff.2 (isDerInt_derInt sig.s).1
  simp only [toDer_eq, List.length_append, List.length_cons, List.length_nil]
  omega

/-- Every signature whose `s` is at most half the group order passes the strict encoding
check. -/
theorem checkSignature_toDer (sig : Signature) (hs : sig.s ≤ Policy.halfOrder) :
    Policy.checkSignature sig.toDer = .ok () := by
  have hsn : sig.s < n := Nat.lt_of_le_of_lt hs (by decide)
  have hrl := length_derInt_le sig.r
  have hsl := length_derInt_le sig.s
  rw [toDer_eq]
  refine checkSignature_layout (isDerInt_derInt _) (isDerInt_derInt _) hrl hsl ?_ ?_ ?_
    (by rw [toNatBE_derInt hsn]; exact hs)
  all_goals simp only [UInt8.toNat_ofNat']
  all_goals omega

/-- A signature with both values in `[1, n)` reads back from its DER form. -/
theorem ofDer?_toDer (sig : Signature) (hr : 0 < sig.r ∧ sig.r < n) (hs : 0 < sig.s ∧ sig.s < n) :
    ofDer? sig.toDer = some sig := by
  have hrl : (UInt8.ofNat (derInt sig.r).length).toNat = (derInt sig.r).length := by
    have := length_derInt_le sig.r
    simp only [UInt8.toNat_ofNat']
    omega
  have hsl : (UInt8.ofNat (derInt sig.s).length).toNat = (derInt sig.s).length := by
    have := length_derInt_le sig.s
    simp only [UInt8.toNat_ofNat']
    omega
  have hnot : ¬(sig.r = 0 ∨ sig.r ≥ n ∨ sig.s = 0 ∨ sig.s ≥ n) := by omega
  rw [toDer_eq]
  simp only [List.cons_append, List.nil_append, List.append_assoc, ofDer?, hrl,
    List.take_left, List.drop_left, hsl, List.take_length, toNatBE_derInt hr.2,
    toNatBE_derInt hs.2, if_neg hnot]

end Signature

/-! ## The signer -/

namespace PrivateKey

/-- Half the group order is the largest `s` the check allows. -/
theorem halfOrder_eq : Policy.halfOrder = n / 2 := by decide

/-- Of a value below the group order and its negation, the lower is at most half the order. -/
theorem low_s_le {s : Nat} (hs : s < n) : (if s > n / 2 then n - s else s) ≤ n / 2 := by
  split <;> omega

/-- The signer normalises `s` to at most half the group order. -/
theorem sign_s_le_halfOrder (k : PrivateKey) (m : Bytes) : (k.sign m).s ≤ Policy.halfOrder := by
  rw [halfOrder_eq]
  unfold sign
  exact low_s_le (Nat.mod_lt _ (by decide))

/-- **Every signature the signer makes passes the strict encoding check**, for every key and
message. -/
theorem checkSignature_sign (k : PrivateKey) (m : Bytes) :
    Policy.checkSignature (k.sign m).toDer = .ok () :=
  Signature.checkSignature_toDer _ (sign_s_le_halfOrder k m)

end PrivateKey

/-- A signature that verifies has both values in `[1, n)`. -/
theorem PublicKey.bounds_of_verify {key : PublicKey} {m : Bytes} {sig : Signature}
    (h : key.verify m sig = true) : (0 < sig.r ∧ sig.r < n) ∧ (0 < sig.s ∧ sig.s < n) := by
  unfold PublicKey.verify at h
  split at h
  · cases h
  · omega

/-! ## Keys -/

namespace Policy

/-- The compressed form of a key passes the key check. -/
theorem checkPubKey_compressed (key : PublicKey) : checkPubKey key.compressed = .ok () := by
  by_cases hy : key.y % 2 = 1 <;> simp [PublicKey.compressed, checkPubKey, hy]

/-- The uncompressed form of a key passes the key check. -/
theorem checkPubKey_uncompressed (key : PublicKey) : checkPubKey key.uncompressed = .ok () := by
  simp [PublicKey.uncompressed, checkPubKey]

end Policy

end BranchLock
