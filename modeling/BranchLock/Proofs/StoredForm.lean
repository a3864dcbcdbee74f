import Mathlib
import BranchLock.Store.Codec
import BranchLock.Proofs.ConditionalRouting

/-!
# The stored form of a set

A set is stored as a version byte, its branch count and its branches, each as a kind byte and
its script behind its length. Reading and writing are inverse to each other:

* every set reads back from its stored form as itself (`BranchSet.serialize_reads_back`). The
  reader's limits, 10000 branches and 10000 bytes per script, are never reached by a set: its
  combined script holds every branch script once and three opcodes per conditional
  (`Nesting.length_leftLeaning`), and the builder keeps it within 10000 bytes
  (`Push.length_le_of_firstError`), so a set has at most 3334 branches
  (`BranchSet.stored_bounds`), empty scripts or not;
* bytes that read as a set are that set's stored form, byte for byte
  (`BranchSet.serialize_of_deserialize`): variable-length integers are read in their shortest
  form only (`CompactSize.eq_encode_of_decode`), each branch is taken as it stands
  (`eq_serialize_of_readBranches`), and no byte may follow the last branch.

So each set has exactly one stored form. Both directions go field by field: a reader lemma for
each field of the form, stated with whatever follows it left open.
-/

namespace BranchLock

/-! ## Little-endian values -/

namespace Bytes

/-- A little-endian value fits the width of its bytes. -/
theorem toNatLE_lt (bs : Bytes) : toNatLE bs < Nat.pow 256 bs.length := by
  induction bs with
  | nil => exact Nat.one_pos
  | cons b rest ih =>
    have hb := b.toNat_lt
    show b.toNat + 256 * toNatLE rest < Nat.pow 256 rest.length * 256
    omega

/-- Writing the value of some bytes in as many bytes gives them back. -/
theorem ofNatLE_toNatLE (bs : Bytes) : ofNatLE bs.length (toNatLE bs) = bs := by
  induction bs with
  | nil => rfl
  | cons b rest ih =>
    have hb := b.toNat_lt
    have hmod : (b.toNat + 256 * toNatLE rest) % 256 = b.toNat := by omega
    have hdiv : (b.toNat + 256 * toNatLE rest) / 256 = toNatLE rest := by omega
    simp only [List.length_cons, ofNatLE, toNatLE, hmod, hdiv, ih, UInt8.ofNat_toNat]

end Bytes

/-! ## Variable-length integers -/

namespace CompactSize

/-- A value behind a marker reads back from its fixed-width bytes, whatever follows them. -/
theorem readWide_ofNatLE (marker : UInt8) {width least v : Nat} (hw : 0 < width)
    (hlo : least ≤ v) (hhi : v < Nat.pow 256 width) (rest : Bytes) :
    readWide marker width least (Bytes.ofNatLE width v ++ rest) = .ok (v, rest) := by
  have hlen := Bytes.length_ofNatLE width v
  have hne : (Bytes.ofNatLE width v ++ rest).isEmpty = false := by
    rw [List.isEmpty_eq_false_iff, ← List.length_pos_iff, List.length_append, hlen]
    omega
  simp only [readWide, hne, List.length_append, hlen, List.take_left' hlen,
    List.drop_left' hlen, Bytes.toNatLE_ofNatLE width v hhi]
  rw [if_neg (by simp), if_neg (by omega), if_neg (by omega)]

/-- A value read behind a marker comes from its own fixed-width bytes, and is at least the
least value the marker allows. -/
theorem eq_ofNatLE_of_readWide {marker : UInt8} {width least v : Nat} {bs rest : Bytes}
    (h : readWide marker width least bs = .ok (v, rest)) :
    least ≤ v ∧ v < Nat.pow 256 width ∧ bs = Bytes.ofNatLE width v ++ rest := by
  unfold readWide at h
  split at h
  · cases h
  · split at h
    · cases h
    · rename_i hlen
      dsimp only at h
      split at h
      · cases h
      · rename_i hlo
        cases h
        have htake : (bs.take width).length = width := List.length_take_of_le (by omega)
        have hbytes := Bytes.ofNatLE_toNatLE (bs.take width)
        have hlt := Bytes.toNatLE_lt (bs.take width)
        rw [htake] at hbytes hlt
        refine ⟨by omega, hlt, ?_⟩
        rw [hbytes, List.take_append_drop]

/-- Every value below `2⁶⁴` reads back from its shortest form, whatever follows it. -/
theorem decode_encode_append {v : Nat} (hv : v < Nat.pow 256 8) (rest : Bytes) :
    decode (encode v ++ rest) = .ok (v, rest) := by
  unfold encode
  by_cases h1 : v < 0xfd
  · -- one byte, which is no marker
    have hb : (UInt8.ofNat v).toNat = v := by
      rw [UInt8.toNat_ofNat']; omega
    have hff : UInt8.ofNat v ≠ 0xff := fun h => by rw [h] at hb; simp at hb; omega
    have hfe : UInt8.ofNat v ≠ 0xfe := fun h => by rw [h] at hb; simp at hb; omega
    have hfd : UInt8.ofNat v ≠ 0xfd := fun h => by rw [h] at hb; simp at hb; omega
    simp [h1, decode, hff, hfe, hfd, hb]
  by_cases h2 : v ≤ 0xffff
  · simp only [h1, h2, if_false, if_true, List.cons_append, decode]
    exact readWide_ofNatLE _ (by decide : 0 < 2) (by omega) (by show v < 65536; omega) rest
  by_cases h3 : v ≤ 0xffffffff
  · simp only [h1, h2, h3, if_false, if_true, List.cons_append, decode]
    exact readWide_ofNatLE _ (by decide : 0 < 4) (by omega) (by show v < 4294967296; omega) rest
  · simp only [h1, h2, h3, if_false, List.cons_append, decode, reduceIte]
    exact readWide_ofNatLE _ (by decide : 0 < 8) (by omega) hv rest

/-- Bytes that read as a value start with its shortest form: a value behind a marker is one
that needs the marker. -/
theorem eq_encode_of_decode {bs rest : Bytes} {v : Nat} (h : decode bs = .ok (v, rest)) :
    bs = encode v ++ rest := by
  match bs with
  | [] => cases h
  | b :: tail =>
    simp only [decode] at h
    by_cases hff : b = 0xff
    · rw [if_pos hff] at h
      obtain ⟨hlo, hhi, rfl⟩ := eq_ofNatLE_of_readWide h
      have henc : encode v = 0xff :: Bytes.ofNatLE 8 v := by
        unfold encode
        rw [if_neg (by omega), if_neg (by omega), if_neg (by omega)]
      rw [henc, hff, List.cons_append]
    by_cases hfe : b = 0xfe
    · rw [if_neg hff, if_pos hfe] at h
      obtain ⟨hlo, hhi, rfl⟩ := eq_ofNatLE_of_readWide h
      have hhi : v < 4294967296 := hhi
      have henc : encode v = 0xfe :: Bytes.ofNatLE 4 v := by
        unfold encode
        rw [if_neg (by omega), if_neg (by omega), if_pos (by omega)]
      rw [henc, hfe, List.cons_append]
    by_cases hfd : b = 0xfd
    · rw [if_neg hff, if_neg hfe, if_pos hfd] at h
      obtain ⟨hlo, hhi, rfl⟩ := eq_ofNatLE_of_readWide h
      have hhi : v < 65536 := hhi
      have henc : encode v = 0xfd :: Bytes.ofNatLE 2 v := by
        unfold encode
        rw [if_neg (by omega), if_pos (by omega)]
      rw [henc, hfd, List.cons_append]
    · -- a byte below the markers is its own value
      rw [if_neg hff, if_neg hfe, if_neg hfd] at h
      cases h
      have hlt : b.toNat < 0xfd := by
        have := b.toNat_lt
        have hff' : b.toNat ≠ 0xff := fun h => hff (UInt8.toNat_inj.1 h)
        have hfe' : b.toNat ≠ 0xfe := fun h => hfe (UInt8.toNat_inj.1 h)
        have hfd' : b.toNat ≠ 0xfd := fun h => hfd (UInt8.toNat_inj.1 h)
        omega
      simp [encode, hlt]

end CompactSize

/-! ## Branches -/

/-- A branch reads back from its stored form, whatever follows it, when its script is within
the limit. -/
theorem readBranch_serialize {b : Branch} (hb : b.script.length ≤ maxStoredLength)
    (rest : Bytes) : readBranch (b.serialize ++ rest) = .ok (b, rest) := by
  have hv : b.script.length < Nat.pow 256 8 := by
    have : maxStoredLength < Nat.pow 256 8 := by decide
    omega
  have hlimit : ¬ b.script.length > maxStoredLength := by omega
  have hnonempty : ¬ (b.script.length > 0 ∧ (b.script ++ rest).isEmpty = true) := by
    rintro ⟨hpos, hempty⟩
    simp only [List.isEmpty_iff, List.append_eq_nil_iff] at hempty
    simp [hempty.1] at hpos
  have hshort : ¬ (b.script ++ rest).length < b.script.length := by simp
  simp only [Branch.serialize, List.cons_append, List.append_assoc, readBranch, readLength,
    CompactSize.decode_encode_append hv, Except.mapError_ok, bind, Except.bind, hlimit, hnonempty,
    hshort, if_false, pure, Except.pure, List.take_left, List.drop_left]

/-- Bytes that read as a branch start with its stored form, and its script is within the
limit. -/
theorem eq_serialize_of_readBranch {bs rest : Bytes} {b : Branch}
    (h : readBranch bs = .ok (b, rest)) :
    b.script.length ≤ maxStoredLength ∧ bs = b.serialize ++ rest := by
  match bs with
  | [] => cases h
  | kind :: tail =>
    simp only [readBranch, readLength] at h
    cases hlen : CompactSize.decode tail with
    | error e => simp [hlen, bind, Except.bind] at h
    | ok p =>
      obtain ⟨n, after⟩ := p
      simp only [hlen, Except.mapError_ok, bind, Except.bind] at h
      split at h
      · simp at h
      · split at h
        · simp at h
        · split at h
          · simp at h
          · rename_i hmax _ hshort
            simp only [pure, Except.pure, Except.ok.injEq, Prod.mk.injEq] at h
            obtain ⟨rfl, rfl⟩ := h
            have htake : (after.take n).length = n := List.length_take_of_le (by omega)
            refine ⟨by rw [htake]; omega, ?_⟩
            rw [CompactSize.eq_encode_of_decode hlen]
            simp only [Branch.serialize, htake, List.cons_append, List.append_assoc,
              List.take_append_drop]

/-- Branches within the limit read back, in order, from their stored forms, whatever follows
them. -/
theorem readBranches_serialize {bs : List Branch}
    (hb : ∀ b ∈ bs, b.script.length ≤ maxStoredLength) (rest : Bytes) :
    readBranches bs.length (bs.flatMap Branch.serialize ++ rest) = .ok (bs, rest) := by
  induction bs with
  | nil => rfl
  | cons b bs ih =>
    have hfirst := readBranch_serialize (hb b List.mem_cons_self)
      (bs.flatMap Branch.serialize ++ rest)
    have hrest := ih (fun b' hb' => hb b' (List.mem_cons_of_mem b hb'))
    simp only [List.length_cons, List.flatMap_cons, List.append_assoc, readBranches, hfirst,
      hrest, bind, Except.bind, pure, Except.pure]

/-- Bytes that read as `k` branches start with their stored forms, one after another. -/
theorem eq_serialize_of_readBranches {k : Nat} {bytes rest : Bytes} {bs : List Branch}
    (h : readBranches k bytes = .ok (bs, rest)) :
    bs.length = k ∧ bytes = bs.flatMap Branch.serialize ++ rest := by
  induction k generalizing bytes bs with
  | zero =>
    simp only [readBranches, Except.ok.injEq, Prod.mk.injEq] at h
    obtain ⟨rfl, rfl⟩ := h
    simp
  | succ k ih =>
    simp only [readBranches, bind, Except.bind] at h
    cases h1 : readBranch bytes with
    | error e => simp [h1] at h
    | ok p =>
      obtain ⟨b, mid⟩ := p
      cases h2 : readBranches k mid with
      | error e => simp [h1, h2] at h
      | ok q =>
        obtain ⟨bs', rest'⟩ := q
        simp only [h1, h2, pure, Except.pure, Except.ok.injEq, Prod.mk.injEq] at h
        obtain ⟨rfl, rfl⟩ := h
        obtain ⟨hlen, hmid⟩ := ih h2
        refine ⟨by simp [hlen], ?_⟩
        rw [(eq_serialize_of_readBranch h1).2, hmid]
        simp

/-! ## How large a set can be -/

namespace Push

/-- An instruction that passes its check fits in the script after the bytes before it. -/
theorem length_encode_le_of_check {used : Nat} {p : Push} (h : p.check used = none) :
    used + p.encode.length ≤ maxScriptSize := by
  cases p with
  | op b =>
    simp only [check] at h
    split at h
    · cases h
    · simp only [encode, List.length_singleton]; omega
  | raw bs =>
    simp only [check] at h
    split at h
    · cases h
    · simp only [encode]; omega
  | data bs =>
    simp only [check] at h
    split at h
    · cases h
    · simp only [encode]; omega
  | num v =>
    simp only [check] at h
    split at h
    · cases h
    · split at h
      · -- a small number is one opcode
        have hone : (Push.num v).encode.length = 1 := by
          simp only [encode]
          split
          · rfl
          · split
            · rfl
            · omega
        omega
      · rename_i hsmall
        split at h
        · cases h
        · have hne : v ≠ 0 := fun h0 => hsmall (Or.inl h0)
          have hnot : ¬ (v = -1 ∨ (1 ≤ v ∧ v ≤ 16)) := fun h1 => hsmall (Or.inr h1)
          simp only [encode, hne, hnot, if_false]
          omega

/-- Instructions that pass every check from `used` bytes on fit in the script after them. -/
theorem length_le_of_firstError {used : Nat} {ps : List Push} (h : firstError used ps = none)
    (hused : used ≤ maxScriptSize) : used + (ps.flatMap encode).length ≤ maxScriptSize := by
  induction ps generalizing used with
  | nil => simpa using hused
  | cons p ps ih =>
    unfold firstError at h
    split at h
    · cases h
    · rename_i hcheck
      have hp := length_encode_le_of_check hcheck
      have hrest := ih h hp
      simp only [List.flatMap_cons, List.length_append]
      omega

end Push

/-- The bytes of a left-leaning tree: the script of each branch `0‥k` once, and three opcodes
for each of its `k` conditionals. -/
theorem Nesting.length_leftLeaning (k : Nat) (scripts : List Bytes) :
    (((Nesting.leftLeaning k).pushes scripts).flatMap Push.encode).length =
      3 * k + ((List.range (k + 1)).map fun i => (scripts.getD i []).length).sum := by
  induction k with
  | zero => simp [Nesting.leftLeaning, Nesting.pushes, Push.encode]
  | succ k ih =>
    rw [Nesting.leftLeaning, Nesting.flatMap_encode_pushes_cond, List.range_succ]
    simp only [List.length_cons, List.length_append, ih, List.map_append, List.sum_append,
      Nesting.pushes, Push.encode, List.flatMap_cons, List.flatMap_nil, List.append_nil,
      List.map_cons, List.map_nil, List.sum_cons, List.sum_nil, List.length_nil]
    omega

/-- A fold that succeeds passes every check of the builder. -/
theorem Shape.firstError_of_fold {sh : Shape} {scripts : List Bytes} {c : Bytes}
    (h : sh.fold scripts = .ok c) : Push.firstError 0 (sh.nesting.pushes scripts) = none := by
  unfold Shape.fold at h
  split at h
  · cases h
  · exact ((Push.build_eq_ok_iff _ _).1 (Except.mapError_eq_ok.1 h)).1

namespace BranchSet

/-- A set is within the limits of the stored form: it has at most 3334 branches, since each of
its conditionals takes three bytes of a combined script of at most 10000, and each branch
script is part of the combined script. -/
theorem stored_bounds (s : BranchSet) :
    s.numBranches ≤ maxStoredLength ∧ ∀ b ∈ s.branches, b.script.length ≤ maxStoredLength := by
  obtain ⟨-, hscript⟩ := Shape.fold_eq_ok s.folded
  have hfits := Push.length_le_of_firstError (Shape.firstError_of_fold s.folded) (Nat.zero_le _)
  rw [← hscript] at hfits
  have hsize := Nesting.length_leftLeaning (s.shape.numBranches - 1) (s.branches.map (·.script))
  rw [← Shape.nesting, ← hscript, s.shape_numBranches] at hsize
  have hpos : 0 < s.numBranches := s.shape_numBranches ▸ s.shape.pos
  unfold maxScriptSize at hfits
  unfold maxStoredLength
  constructor
  · omega
  · intro b hb
    obtain ⟨i, hi, rfl⟩ := List.mem_iff_getElem.1 hb
    -- branch `i` is one of the scripts the combined script holds
    have hmem : s.branches[i].script.length ∈
        (List.range (s.numBranches - 1 + 1)).map
          fun j => ((s.branches.map (·.script)).getD j []).length := by
      refine List.mem_map.2 ⟨i, List.mem_range.2 (by unfold numBranches at hpos ⊢; omega), ?_⟩
      rw [List.getD_eq_getElem _ _ (by simpa using hi), List.getElem_map]
    have hle := List.le_sum_of_mem hmem
    omega

/-! ## Sets from their branches -/

/-- A set is the set of its own branches: the shape and the combined script are determined by
the branches. -/
theorem make_branches (s : BranchSet) : BranchSet.make s.branches = .ok s := by
  obtain ⟨branches, ⟨n, hpos⟩, script, folded⟩ := s
  have hn : n = branches.length := by simpa using ((Shape.fold_eq_ok folded).1).symm
  subst hn
  have hcount : Shape.ofCount (branches.length : Int) = .ok ⟨branches.length, hpos⟩ := by
    unfold Shape.ofCount
    rw [dif_pos (by omega)]
    rfl
  unfold make
  rw [hcount]
  split
  · rename_i he
    cases he
  · rename_i hc
    cases hc
    split
    · rename_i he
      rw [folded] at he
      cases he
    · rename_i hc
      rw [folded] at hc
      cases hc
      rfl

/-- The set of some branches has exactly those branches. -/
theorem branches_of_make {bs : List Branch} {s : BranchSet} (h : BranchSet.make bs = .ok s) :
    s.branches = bs := by
  unfold make at h
  split at h
  · cases h
  · split at h
    · cases h
    · cases h
      rfl

/-- A set is determined by its branches. -/
theorem eq_of_branches_eq {s t : BranchSet} (h : s.branches = t.branches) : s = t := by
  have hs := make_branches s
  rw [h, make_branches t] at hs
  exact (Except.ok.inj hs).symm

/-! ## Reading and writing the stored form -/

/-- A set's stored form reads as the set itself. -/
theorem deserialize_serialize (s : BranchSet) : BranchSet.deserialize s.serialize = .ok s := by
  obtain ⟨hcount, hscripts⟩ := s.stored_bounds
  have hpos : 0 < s.numBranches := s.shape_numBranches ▸ s.shape.pos
  unfold numBranches at hcount hpos
  have hv : s.branches.length < Nat.pow 256 8 := by
    have : maxStoredLength < Nat.pow 256 8 := by decide
    omega
  have hcheck : ¬ (s.branches.length = 0 ∨ s.branches.length > maxStoredLength) := by omega
  have hbranches := readBranches_serialize hscripts []
  rw [List.append_nil] at hbranches
  simp only [serialize, deserialize, List.cons_append, readLength,
    CompactSize.decode_encode_append hv, Except.mapError_ok, bind, Except.bind, ne_eq,
    not_true_eq_false, if_false, hcheck, hbranches, List.length_nil, make_branches]

/-- **Every set reads back from its stored form.** A set is within the limits of the stored
form, at most 10000 branches and scripts of at most 10000 bytes, and its stored form reads as
the set itself: the same branches in the same order, each with its kind byte and its script,
and so the same combined script and script hash. -/
theorem serialize_reads_back (s : BranchSet) :
    (s.numBranches ≤ maxStoredLength ∧ ∀ b ∈ s.branches, b.script.length ≤ maxStoredLength) ∧
      BranchSet.deserialize s.serialize = .ok s :=
  ⟨s.stored_bounds, deserialize_serialize s⟩

/-- **Stored forms are canonical.** Bytes that read as a set are that set's stored form, byte
for byte: the version is the known one, the count and every script length are in their
shortest form, and nothing follows the last branch. So no set has a second stored form. -/
theorem serialize_of_deserialize {bytes : Bytes} {s : BranchSet}
    (h : BranchSet.deserialize bytes = .ok s) : s.serialize = bytes := by
  match bytes with
  | [] => cases h
  | v :: rest =>
    simp only [deserialize, bind, Except.bind] at h
    split at h
    · simp at h
    · rename_i hversion
      cases hcount : readLength rest with
      | error e => simp [hcount] at h
      | ok p =>
        obtain ⟨count, afterCount⟩ := p
        simp only [hcount] at h
        split at h
        · simp at h
        · cases hread : readBranches count afterCount with
          | error e => simp [hread] at h
          | ok q =>
            obtain ⟨branches, afterBranches⟩ := q
            simp only [hread] at h
            split at h
            · simp at h
            · rename_i htrailing
              obtain ⟨hlen, hbytes⟩ := eq_serialize_of_readBranches hread
              have hnil : afterBranches = [] := List.eq_nil_of_length_eq_zero (by omega)
              have hrest := CompactSize.eq_encode_of_decode (Except.mapError_eq_ok.1 hcount)
              have hbranches := branches_of_make (Except.mapError_eq_ok.1 h)
              rw [hrest, hbytes, hnil, List.append_nil]
              simp only [serialize, hbranches, hlen, not_not.1 hversion, List.cons_append]

/-- The stored form of a pay-to-`OP_1` branch of kind 1 and an empty branch of kind 0 reads as
their set, whose combined script is `OP_IF OP_1 OP_ELSE OP_ENDIF`, and is that set's stored
form. -/
theorem serialize_of_deserialize_two_branches :
    ∃ s, BranchSet.deserialize [1, 2, 1, 1, 0x51, 0, 0] = .ok s ∧
      s.serialize = [1, 2, 1, 1, 0x51, 0, 0] := by
  have h : BranchSet.deserialize [1, 2, 1, 1, 0x51, 0, 0] =
      .ok ⟨[⟨⟨1⟩, [0x51]⟩, ⟨⟨0⟩, []⟩], ⟨2, by decide⟩, [0x63, 0x51, 0x67, 0x68], by decide⟩ := by
    rfl
  exact ⟨_, h, serialize_of_deserialize h⟩

end BranchSet

end BranchLock
