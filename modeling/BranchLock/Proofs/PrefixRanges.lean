import Mathlib
import BranchLock.Store.Range

/-!
# Prefix ranges

A scan over the keys that start with `p` reads the range `KeyRange.ofPrefix p`: from `p` up to
`prefixLimit p`, which is found by a backwards scan that passes over the trailing `0xff` bytes
and raises the last byte below `0xff`. This module shows that the range covers exactly the keys
with the prefix, and has no limit exactly when every byte of `p` is `0xff`
(`ofPrefix_covers_prefixed`).

The limit is read off one byte at a time from the end: a trailing `0xff` does not move it
(`prefixLimit_append_ff`), and a last byte below `0xff` is raised by one
(`prefixLimit_append_of_ne`). So a prefix is either all `0xff`, and has no limit, or
`q ++ b :: t` with `b` below `0xff` and `t` all `0xff`, with limit `q ++ [b + 1]`
(`prefixLimit_cases`).

On the order side, a string is at most every string it begins (`Bytes.le_append`), a string
that sits between two bounds sharing a start shares it (`Bytes.eq_append_of_between`), and
above a string made only of `0xff` bytes the strings it begins come first
(`Bytes.le_iff_isPrefix_of_all_ff`). The limit is moreover the least string above every key
with the prefix (`prefixLimit_least`).
-/

namespace BranchLock

namespace Bytes

/-- Raising a byte below `0xff` raises its value by one. -/
theorem toNat_add_one_of_ne {b : UInt8} (hb : b ≠ 0xff) : (b + 1).toNat = b.toNat + 1 := by
  have hne : b.toNat ≠ 255 := fun e => hb (UInt8.toNat_inj.1 e)
  have := b.toNat_lt
  simp [UInt8.toNat_add]
  omega

/-- A string is at most every string it begins. -/
theorem le_append (p s : Bytes) : le p (p ++ s) = true := by
  have h := lt_append_left p s []
  simp only [List.append_nil, lt_nil] at h
  simp [le, h]

/-- Raising the byte that follows a common start puts a string above every string that
continues the start with a lower byte. -/
theorem lt_append_cons {b c : UInt8} (hbc : b.toNat < c.toNat) (q s t : Bytes) :
    lt (q ++ b :: s) (q ++ c :: t) = true := by
  rw [lt_append_left]
  exact lt_cons_cons_eq_true.2 (.inl hbc)

/-- A string below another is at most it. -/
theorem le_of_lt {a b : Bytes} (h : lt a b = true) : le a b = true := by
  cases hba : lt b a
  · simp [le, hba]
  · simpa using lt_trans h hba

/-- A string at least `q ++ r` and below `q ++ r'` starts with `q`, and what follows `q` lies
between `r` and `r'`. -/
theorem eq_append_of_between {q r r' k : Bytes} (hlo : le (q ++ r) k = true)
    (hhi : lt k (q ++ r') = true) :
    ∃ k', k = q ++ k' ∧ le r k' = true ∧ lt k' r' = true := by
  induction q generalizing k with
  | nil => exact ⟨k, rfl, hlo, hhi⟩
  | cons x q ih =>
    cases k with
    | nil => simp [le, lt] at hlo
    | cons a k =>
      simp only [List.cons_append] at hlo hhi
      -- the upper bound forces the first byte up to `x`, the lower bound keeps it there
      rcases lt_cons_cons_eq_true.1 hhi with hax | ⟨rfl, hk⟩
      · have hlt : lt (a :: k) (x :: (q ++ r)) = true := lt_cons_cons_eq_true.2 (.inl hax)
        simp [le, hlt] at hlo
      · have hlo' : le (q ++ r) k = true := by
          simpa [le, lt_cons_cons] using hlo
        obtain ⟨k', rfl, hr, hr'⟩ := ih hlo' hk
        exact ⟨k', rfl, hr, hr'⟩

/-- A string at least `b :: t` and below the one-byte string `[c]`, where `c` follows `b`,
starts with `b`, and what follows is at least `t`. -/
theorem eq_cons_of_between {t k : Bytes} {b c : UInt8} (hbc : b.toNat + 1 = c.toNat)
    (hlo : le (b :: t) k = true) (hhi : lt k [c] = true) :
    ∃ k', k = b :: k' ∧ le t k' = true := by
  cases k with
  | nil => simp [le, lt] at hlo
  | cons a k =>
    have hac : a.toNat < c.toNat := by
      rcases lt_cons_cons_eq_true.1 hhi with h | ⟨-, h⟩
      · exact h
      · simp at h
    have hba : ¬ a.toNat < b.toNat := fun h => by
      simp [le, lt_cons_cons_eq_true.2 (.inl h)] at hlo
    obtain rfl : a = b := UInt8.toNat_inj.1 (by omega)
    exact ⟨k, rfl, by simpa [le, lt_cons_cons] using hlo⟩

/-- Above a string of `0xff` bytes, the strings it begins come before every other string:
such a string is at most `k` exactly when it begins `k`. -/
theorem le_iff_isPrefix_of_all_ff {t : Bytes} (ht : ∀ b ∈ t, b = 0xff) (k : Bytes) :
    le t k = true ↔ t <+: k := by
  refine ⟨fun h => ?_, fun ⟨s, hs⟩ => hs ▸ le_append t s⟩
  induction t generalizing k with
  | nil => exact List.nil_prefix
  | cons x t ih =>
    obtain rfl : x = 0xff := ht x (List.mem_cons_self ..)
    cases k with
    | nil => simp [le, lt] at h
    | cons a k =>
      -- no byte is above `0xff`, so the first byte of `k` is `0xff` too
      have ha : ¬ a.toNat < (0xff : UInt8).toNat := fun hlt => by
        simp [le, lt_cons_cons_eq_true.2 (.inl hlt)] at h
      obtain rfl : a = 0xff := UInt8.toNat_inj.1 (by have := a.toNat_lt; simp at ha ⊢; omega)
      have hk : le t k = true := by simpa [le, lt_cons_cons] using h
      exact List.prefix_cons_inj _ |>.2 (ih (fun b hb => ht b (List.mem_cons_of_mem _ hb)) k hk)

end Bytes

namespace KeyRange

/-- A trailing `0xff` byte does not move the limit of a prefix. -/
theorem prefixLimit_append_ff (p : Bytes) : prefixLimit (p ++ [0xff]) = prefixLimit p := by
  simp [prefixLimit]

/-- A last byte below `0xff` is the one the limit raises. -/
theorem prefixLimit_append_of_ne {x : UInt8} (hx : x ≠ 0xff) (p : Bytes) :
    prefixLimit (p ++ [x]) = some (p ++ [x + 1]) := by
  simp [prefixLimit, hx]

/-- Every prefix is all `0xff` and has no limit, or it is `q ++ b :: t` with `b` below `0xff`
and `t` all `0xff`, and its limit is `q ++ [b + 1]`. -/
theorem prefixLimit_cases (p : Bytes) :
    ((∀ b ∈ p, b = 0xff) ∧ prefixLimit p = none) ∨
      ∃ q b t, p = q ++ b :: t ∧ b ≠ 0xff ∧ (∀ x ∈ t, x = 0xff) ∧
        prefixLimit p = some (q ++ [b + 1]) := by
  induction p using List.reverseRecOn with
  | nil => exact .inl ⟨by simp, rfl⟩
  | append_singleton p x ih =>
    by_cases hx : x = 0xff
    · subst hx
      rw [prefixLimit_append_ff]
      rcases ih with ⟨hff, hnone⟩ | ⟨q, b, t, rfl, hb, ht, hsome⟩
      · refine .inl ⟨?_, hnone⟩
        simp only [List.mem_append, List.mem_singleton]
        rintro b (hb | rfl)
        exacts [hff b hb, rfl]
      · refine .inr ⟨q, b, t ++ [0xff], by simp, hb, ?_, hsome⟩
        simp only [List.mem_append, List.mem_singleton]
        rintro x (hx | rfl)
        exacts [ht x hx, rfl]
    · exact .inr ⟨p, x, [], rfl, hx, by simp, prefixLimit_append_of_ne hx p⟩

example : prefixLimit [0x01, 0xff] = some [0x02] ∧ prefixLimit [0xff, 0xff] = none := by decide

/-- A prefix has no limit exactly when all its bytes are `0xff`. -/
theorem prefixLimit_eq_none_iff (p : Bytes) : prefixLimit p = none ↔ ∀ b ∈ p, b = 0xff := by
  rcases prefixLimit_cases p with ⟨hff, hnone⟩ | ⟨q, b, t, rfl, hb, -, hsome⟩
  · exact ⟨fun _ => hff, fun _ => hnone⟩
  · simp only [hsome, reduceCtorEq, false_iff]
    exact fun hff => hb (hff b (by simp))

/-- With a limit, the range of a prefix holds the keys from the prefix up to the limit. -/
theorem contains_ofPrefix_of_some {p l : Bytes} (h : prefixLimit p = some l) (k : Bytes) :
    (ofPrefix p).contains k = (Bytes.le p k && Bytes.lt k l) := by
  simp [contains, ofPrefix, h]

/-- The range of a prefix holds exactly the keys that start with it. -/
theorem contains_ofPrefix_iff (p k : Bytes) : (ofPrefix p).contains k = true ↔ p <+: k := by
  rcases prefixLimit_cases p with ⟨hff, hnone⟩ | ⟨q, b, t, rfl, hb, ht, hsome⟩
  · simp [contains, ofPrefix, hnone, Bytes.le_iff_isPrefix_of_all_ff hff]
  · rw [contains_ofPrefix_of_some hsome, Bool.and_eq_true]
    constructor
    · rintro ⟨hlo, hhi⟩
      -- `k` shares `q` with both bounds, then its next byte must be `b`
      obtain ⟨k', rfl, hlo, hhi⟩ := Bytes.eq_append_of_between hlo hhi
      obtain ⟨k'', rfl, hrest⟩ :=
        Bytes.eq_cons_of_between (Bytes.toNat_add_one_of_ne hb).symm hlo hhi
      have ht : t <+: k'' := (Bytes.le_iff_isPrefix_of_all_ff ht k'').1 hrest
      exact (List.prefix_append_right_inj q).2 ((List.prefix_cons_inj b).2 ht)
    · rintro ⟨s, rfl⟩
      refine ⟨Bytes.le_append _ s, ?_⟩
      have hbc : b.toNat < (b + 1).toNat := by rw [Bytes.toNat_add_one_of_ne hb]; omega
      simpa using Bytes.lt_append_cons hbc q (t ++ s) []

/-- The range of a prefix covers exactly the keys that start with it: a key is at least the
prefix and, when there is a limit, below it, just when the prefix begins the key. The range has
no limit exactly when every byte of the prefix is `0xff`, the empty prefix among them. -/
theorem ofPrefix_covers_prefixed (p k : Bytes) :
    ((ofPrefix p).contains k = true ↔ p <+: k) ∧
      ((ofPrefix p).limit = none ↔ ∀ b ∈ p, b = 0xff) :=
  ⟨contains_ofPrefix_iff p k, prefixLimit_eq_none_iff p⟩

/-- The limit of a prefix is the least string above every key that starts with the prefix. -/
theorem prefixLimit_least {p l : Bytes} (h : prefixLimit p = some l) :
    (∀ k, p <+: k → Bytes.lt k l = true) ∧
      ∀ l', (∀ k, p <+: k → Bytes.lt k l' = true) → Bytes.le l l' = true := by
  have hcontains (k : Bytes) :
      (ofPrefix p).contains k = true ↔ Bytes.le p k ∧ Bytes.lt k l := by
    rw [contains_ofPrefix_of_some h, Bool.and_eq_true]
  have hbelow (k : Bytes) (hk : p <+: k) : Bytes.lt k l = true :=
    ((hcontains k).1 ((contains_ofPrefix_iff p k).2 hk)).2
  refine ⟨hbelow, fun l' hl' => ?_⟩
  -- a bound `l'` below `l` would lie in the range, so it would start with `p` and be below itself
  cases hlt : Bytes.lt l' l
  · simp [Bytes.le, hlt]
  · have hp : Bytes.le p l' = true := Bytes.le_of_lt (hl' p (List.prefix_refl p))
    have hpl' : p <+: l' := (contains_ofPrefix_iff p l').1 ((hcontains l').2 ⟨hp, hlt⟩)
    simpa using hl' l' hpl'

end KeyRange

end BranchLock
