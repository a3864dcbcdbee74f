import BranchLock.Script.Token
import BranchLock.Script.Builder

/-!
# Reading scripts back

A script reads token by token, and reading a token never looks past the bytes it takes. So a
script that reads completely reads the same at the head of a longer one
(`Script.parse_append`).

The builder writes each data element in its shortest push form, and that form reads back as one
token (`Push.parse_encodeData_append`): `OP_0` for the empty element and the zero byte, a
small-number opcode for the bytes 1 to 16, `OP_1NEGATE` for `0x81`, and otherwise a push that
carries the element. A script built of opcodes without data and of data elements within the
element limit therefore reads completely (`Push.parse_flatMap_encode`).
-/

namespace BranchLock

/-! ## Reading concatenated scripts -/

/-- Reading a token does not look past the bytes it takes. -/
theorem Token.next_append {op : UInt8} {rest : Bytes} {t : Token} {r : Bytes}
    (h : Token.next op rest = .ok (t, r)) (tail : Bytes) :
    Token.next op (rest ++ tail) = .ok (t, r ++ tail) := by
  unfold Token.next at h ⊢
  split at h
  · simp_all
  · split at h
    · simp at h
    · rename_i n _ hn
      simp at h
      obtain ⟨rfl, rfl⟩ := h
      have hlong : ¬ (rest.length + tail.length < n) := by omega
      simp [hlong, List.take_append_of_le_length (by omega : n ≤ rest.length),
        List.drop_append_of_le_length (by omega : n ≤ rest.length)]
  · split at h
    · simp at h
    · rename_i w _ hw
      simp only at h
      split at h
      · simp at h
      · rename_i hlen
        simp at h
        obtain ⟨rfl, rfl⟩ := h
        have hlong : ¬ (rest.length + tail.length < w) := by omega
        have htake : (rest ++ tail).take w = rest.take w :=
          List.take_append_of_le_length (by omega)
        have hdrop : (rest ++ tail).drop w = rest.drop w ++ tail :=
          List.drop_append_of_le_length (by omega)
        simp only [List.length_append, hlong, if_false, htake, hdrop]
        -- the data length is read from the prefix alone, so it is the same number
        generalize int32OfNat (Bytes.toNatLE (rest.take w)) = len at hlen ⊢
        have hfit : len.toNat ≤ (rest.drop w).length := by omega
        have hlen' : ¬(len < 0 ∨ len > ((rest.drop w).length + tail.length : Nat)) := by omega
        simp only [hlen', if_false, List.take_append_of_le_length hfit,
          List.drop_append_of_le_length hfit, List.drop_drop]

/-- A push whose length prefix holds exactly the length of the data after it reads as that
data, and reading goes on after the data. -/
theorem Token.next_prefixed {op : UInt8} {w : Nat} {pre d : Bytes}
    (hdl : Opcode.dataLength op = .prefixed w) (hw : pre.length = w)
    (hv : int32OfNat (Bytes.toNatLE pre) = d.length) (rest : Bytes) :
    Token.next op (pre ++ (d ++ rest)) = .ok (.push op d, rest) := by
  have htake : (pre ++ (d ++ rest)).take w = pre := List.take_left' hw
  have hdrop : (pre ++ (d ++ rest)).drop w = d ++ rest := List.drop_left' hw
  simp only [Token.next, hdl, htake, hdrop, hv, List.length_append]
  rw [if_neg (by omega), if_neg (by omega)]
  simp only [Int.toNat_natCast, List.take_left, List.drop_left]

/-- A script that reads completely reads the same at the head of a longer script; reading
then goes on with the rest. -/
theorem Script.parse_append {a : Bytes} {ts : List Token} (h : Script.parse a = (ts, none))
    (b : Bytes) : Script.parse (a ++ b) = (ts ++ (Script.parse b).1, (Script.parse b).2) := by
  fun_induction Script.parse a generalizing ts with
  | case1 =>
    obtain rfl : [] = ts := congrArg Prod.fst h
    simp
  | case2 op rest e he => simp at h
  | case3 op rest t r hn _ rs er hr ih =>
    simp only [Prod.mk.injEq] at h
    obtain ⟨rfl, rfl⟩ := h
    rw [List.cons_append, Script.parse.eq_def]
    simp only
    split
    · rename_i e he
      rw [Token.next_append hn] at he
      cases he
    · rename_i t' r' hn'
      rw [Token.next_append hn] at hn'
      cases hn'
      simp [ih hr]

/-- A token read off the head of a script is followed by the reading of what it leaves. -/
theorem Script.parse_cons_of_next {op : UInt8} {bs r : Bytes} {t : Token}
    (h : Token.next op bs = .ok (t, r)) :
    Script.parse (op :: bs) = (t :: (Script.parse r).1, (Script.parse r).2) := by
  rw [Script.parse.eq_def]
  simp only
  split
  · rename_i e he
    rw [h] at he
    cases he
  · rename_i t' r' hn
    rw [h] at hn
    cases hn
    rfl

/-- An opcode that carries no data reads as a token of its own. -/
theorem Script.parse_cons_of_none (op : UInt8) (h : Opcode.dataLength op = .none)
    (rest : Bytes) :
    Script.parse (op :: rest) = (.op op :: (Script.parse rest).1, (Script.parse rest).2) :=
  Script.parse_cons_of_next (by simp [Token.next, h])

/-- The empty script reads completely, as no tokens. -/
@[simp] theorem Script.parse_nil : Script.parse [] = ([], none) := by
  rw [Script.parse.eq_def]

/-- A script of opcodes that carry no data reads as those opcodes, one token each. -/
theorem Script.parse_of_no_data {bs : Bytes} (h : ∀ b ∈ bs, Opcode.dataLength b = .none) :
    Script.parse bs = (bs.map Token.op, none) := by
  induction bs with
  | nil => exact Script.parse_nil
  | cons b bs ih =>
    rw [Script.parse_cons_of_none b (h b List.mem_cons_self),
      ih fun c hc => h c (List.mem_cons_of_mem _ hc), List.map_cons]

/-- A script has tokens exactly when it reads completely, as those tokens. -/
theorem Script.tokens_eq_ok_iff {bs : Bytes} {ts : List Token} :
    Script.tokens bs = .ok ts ↔ Script.parse bs = (ts, none) := by
  unfold Script.tokens
  split <;> rename_i h <;> simp [h]

/-- A token carries no more data than the bytes it is read from. -/
theorem Token.length_data_next {op : UInt8} {rest r : Bytes} {t : Token}
    (h : Token.next op rest = .ok (t, r)) : (t.data?.getD []).length ≤ rest.length := by
  unfold Token.next at h
  split at h
  · simp only [Except.ok.injEq, Prod.mk.injEq] at h
    obtain ⟨rfl, -⟩ := h
    simp [Token.data?]
  · split at h
    · cases h
    · simp only [Except.ok.injEq, Prod.mk.injEq] at h
      obtain ⟨rfl, -⟩ := h
      simp only [Token.data?, Option.getD_some, List.length_take]
      omega
  · split at h
    · cases h
    · simp only at h
      split at h
      · cases h
      · simp only [Except.ok.injEq, Prod.mk.injEq] at h
        obtain ⟨rfl, -⟩ := h
        simp only [Token.data?, Option.getD_some, List.length_take, List.length_drop]
        omega

/-- No token of a script carries more data than the script has bytes. -/
theorem Script.length_data_le {bs : Bytes} {t : Token} (ht : t ∈ (Script.parse bs).1) :
    (t.data?.getD []).length ≤ bs.length := by
  fun_induction Script.parse bs with
  | case1 => simp at ht
  | case2 op rest e he => simp at ht
  | case3 op rest t' r hn _ rs er hr ih =>
    have hlen := Token.next_rest_length hn
    simp only [hr, List.mem_cons] at ht ih
    rcases ht with rfl | ht
    · have := Token.length_data_next hn
      simp only [List.length_cons]
      omega
    · have := ih ht
      simp only [List.length_cons]
      omega

/-! ## Reading the builder's pushes -/

namespace Push

/-- The token the shortest push of a data element reads as. -/
def dataToken (d : Bytes) : Token :=
  match d with
  | [] => .op Opcode.op0
  | [b] =>
    if b = 0 then .op Opcode.op0
    else if b ≤ 16 then .op (Opcode.op1 - 1 + b)
    else if b = 0x81 then .op Opcode.op1Negate
    else .push 1 [b]
  | _ =>
    if d.length < 0x4c then .push (UInt8.ofNat d.length) d
    else if d.length ≤ 0xff then .push Opcode.pushData1 d
    else if d.length ≤ 0xffff then .push Opcode.pushData2 d
    else .push Opcode.pushData4 d

/-- The small-number opcodes carry no data. -/
theorem dataLength_smallNumber {b : UInt8} (h0 : b ≠ 0) (h16 : b ≤ 16) :
    Opcode.dataLength (Opcode.op1 - 1 + b) = .none := by
  have hb : b.toNat ≤ 16 := by simpa [UInt8.le_iff_toNat_le] using h16
  have hb0 : b.toNat ≠ 0 := fun h => h0 (UInt8.toNat_inj.1 (by simpa using h))
  have hv : (Opcode.op1 - 1 + b).toNat = 0x50 + b.toNat := by
    simp [Opcode.op1, UInt8.toNat_add]
    omega
  unfold Opcode.dataLength
  simp [hv, Opcode.pushData1, Opcode.pushData2, Opcode.pushData4, ← UInt8.toNat_inj]
  rw [if_neg (by omega), if_neg (by omega), if_neg (by omega), if_neg (by omega)]

/-- The shortest push of an element of at least two bytes: the length as the opcode, or after
`OP_PUSHDATA1`, `OP_PUSHDATA2` or `OP_PUSHDATA4`. -/
theorem encodeData_long {d : Bytes} (h : 2 ≤ d.length) :
    encodeData d =
      if d.length < 0x4c then UInt8.ofNat d.length :: d
      else if d.length ≤ 0xff then Opcode.pushData1 :: UInt8.ofNat d.length :: d
      else if d.length ≤ 0xffff then Opcode.pushData2 :: Bytes.ofNatLE 2 d.length ++ d
      else Opcode.pushData4 :: Bytes.ofNatLE 4 d.length ++ d := by
  match d, h with
  | _ :: _ :: _, _ => rfl

/-- The token of an element of at least two bytes: a direct push up to 75 bytes, then
`OP_PUSHDATA1`, `OP_PUSHDATA2` and `OP_PUSHDATA4` by the length. -/
theorem dataToken_long {d : Bytes} (h : 2 ≤ d.length) :
    dataToken d =
      if d.length < 0x4c then .push (UInt8.ofNat d.length) d
      else if d.length ≤ 0xff then .push Opcode.pushData1 d
      else if d.length ≤ 0xffff then .push Opcode.pushData2 d
      else .push Opcode.pushData4 d := by
  match d, h with
  | _ :: _ :: _, _ => rfl

/-- A push of a data element of at least two bytes reads back as one push of the element. -/
theorem next_encodeData_long {d : Bytes} (h2 : 2 ≤ d.length) (hd : d.length ≤ maxElementSize)
    (rest : Bytes) :
    ∃ op bs, encodeData d = op :: bs ∧
      Token.next op (bs ++ rest) = .ok (dataToken d, rest) := by
  simp only [maxElementSize] at hd
  have hint : int32OfNat d.length = d.length := by
    have h31 : Nat.pow 2 31 = 2147483648 := rfl
    simp only [int32OfNat, h31]
    rw [if_pos (by omega)]
  by_cases h1 : d.length < 0x4c
  · -- a direct push: the opcode is the length
    have hv : (UInt8.ofNat d.length).toNat = d.length := by simp; omega
    have hdl : Opcode.dataLength (UInt8.ofNat d.length) = .fixed d.length := by
      simp only [Opcode.dataLength, hv]
      rw [if_pos (by omega)]
    refine ⟨UInt8.ofNat d.length, d, by rw [encodeData_long h2, if_pos h1], ?_⟩
    rw [dataToken_long h2, if_pos h1]
    simp only [Token.next, hdl, List.length_append]
    rw [if_neg (by omega), List.take_left, List.drop_left]
  · by_cases h255 : d.length ≤ 0xff
    · -- one length byte after OP_PUSHDATA1
      refine ⟨Opcode.pushData1, UInt8.ofNat d.length :: d,
        by rw [encodeData_long h2, if_neg h1, if_pos h255], ?_⟩
      have hv : Bytes.toNatLE [UInt8.ofNat d.length] = d.length := by
        simp only [Bytes.toNatLE, Nat.mul_zero, Nat.add_zero]
        exact UInt8.toNat_ofNat_of_lt (by show d.length < 256; omega)
      have hdl : Opcode.dataLength Opcode.pushData1 = .prefixed 1 := by decide
      rw [dataToken_long h2, if_neg h1, if_pos h255, List.cons_append]
      exact Token.next_prefixed hdl rfl (by rw [hv, hint]) rest
    · -- two length bytes after OP_PUSHDATA2
      have hle : d.length ≤ 0xffff := by omega
      refine ⟨Opcode.pushData2, Bytes.ofNatLE 2 d.length ++ d,
        by rw [encodeData_long h2, if_neg h1, if_neg h255, if_pos hle, List.cons_append], ?_⟩
      have h16 : Nat.pow 256 2 = 65536 := rfl
      have hv : Bytes.toNatLE (Bytes.ofNatLE 2 d.length) = d.length :=
        Bytes.toNatLE_ofNatLE 2 d.length (by rw [h16]; omega)
      have hdl : Opcode.dataLength Opcode.pushData2 = .prefixed 2 := by decide
      rw [dataToken_long h2, if_neg h1, if_neg h255, if_pos hle, List.append_assoc]
      exact Token.next_prefixed hdl (Bytes.length_ofNatLE 2 _) (by rw [hv, hint]) rest

/-- The shortest push of a data element within the element limit reads back as its token, and
reading goes on after it. -/
theorem parse_encodeData_append (d : Bytes) (hd : d.length ≤ maxElementSize) (rest : Bytes) :
    Script.parse (encodeData d ++ rest) =
      (dataToken d :: (Script.parse rest).1, (Script.parse rest).2) := by
  match d with
  | [] => exact Script.parse_cons_of_none _ (by decide) rest
  | [b] =>
    by_cases h0 : b = 0
    · subst h0
      exact Script.parse_cons_of_none _ (by decide) rest
    · by_cases h16 : b ≤ 16
      · simp only [encodeData, dataToken, h0, h16, if_false, if_true, List.cons_append,
          List.nil_append]
        exact Script.parse_cons_of_none _ (dataLength_smallNumber h0 h16) rest
      · by_cases hneg : b = 0x81
        · subst hneg
          exact Script.parse_cons_of_none _ (by decide) rest
        · -- a direct push of the one byte
          simp only [encodeData, dataToken, h0, h16, hneg, if_false, List.cons_append,
            List.nil_append]
          exact Script.parse_cons_of_next (by simp [Token.next, Opcode.dataLength])
  | x :: y :: tl =>
    obtain ⟨op, bs, henc, hnext⟩ := next_encodeData_long (by simp) hd rest
    rw [henc, List.cons_append]
    exact Script.parse_cons_of_next hnext

/-- The shortest push of a data element is a push opcode, up to `OP_16`. -/
theorem dataToken_opcode_le (d : Bytes) : (dataToken d).opcode ≤ Opcode.op16 := by
  rw [UInt8.le_iff_toNat_le]
  match d with
  | [] => decide
  | [b] =>
    simp only [dataToken]
    split
    · decide
    · split
      · rename_i h16
        have hb : b.toNat ≤ 16 := by simpa [UInt8.le_iff_toNat_le] using h16
        simp [Token.opcode, Opcode.op1, Opcode.op16, UInt8.toNat_add]
        omega
      · split
        · decide
        · simp [Token.opcode, Opcode.op16]
  | x :: y :: tl =>
    rw [dataToken_long (by simp)]
    generalize x :: y :: tl = d
    split
    · simp [Token.opcode, Opcode.op16]
      omega
    · split
      · simp [Token.opcode, Opcode.op16, Opcode.pushData1]
      · split
        · simp [Token.opcode, Opcode.op16, Opcode.pushData2]
        · simp [Token.opcode, Opcode.op16, Opcode.pushData4]

/-- Whether an instruction reads back as one token: an opcode that carries no data, or a data
element within the element limit. -/
def readsBack : Push → Bool
  | .op b => Opcode.dataLength b = .none
  | .data d => d.length ≤ maxElementSize
  | _ => false

/-- A script built of instructions that read back reads completely. -/
theorem parse_flatMap_encode (ps : List Push) (h : ∀ p ∈ ps, p.readsBack = true) :
    ∃ ts, Script.parse (ps.flatMap encode) = (ts, none) := by
  induction ps with
  | nil => exact ⟨[], Script.parse_nil⟩
  | cons p ps ih =>
    obtain ⟨ts, hts⟩ := ih fun q hq => h q (List.mem_cons_of_mem p hq)
    have hp := h p List.mem_cons_self
    rw [List.flatMap_cons]
    cases p with
    | op b =>
      refine ⟨.op b :: ts, ?_⟩
      rw [encode, List.singleton_append,
        Script.parse_cons_of_none b (by simpa [readsBack] using hp), hts]
    | data d =>
      refine ⟨dataToken d :: ts, ?_⟩
      rw [encode, parse_encodeData_append d (by simpa [readsBack] using hp), hts]
    | raw bs => simp [readsBack] at hp
    | num v => simp [readsBack] at hp

/-- A build that succeeds keeps every data element within the element limit. -/
theorem firstError_data_le {used : Nat} {ps : List Push} (h : firstError used ps = none)
    {d : Bytes} (hd : Push.data d ∈ ps) : d.length ≤ maxElementSize := by
  induction ps generalizing used with
  | nil => cases hd
  | cons p ps ih =>
    unfold firstError at h
    split at h
    · cases h
    · rename_i hcheck
      rcases List.mem_cons.1 hd with rfl | hd
      · simp only [check] at hcheck
        split at hcheck
        · cases hcheck
        · split at hcheck
          · cases hcheck
          · omega
      · exact ih h hd

end Push

end BranchLock
