import BranchLock.Chain.CompactSize
import BranchLock.Hash.Digest

/-!
# Transactions

A transaction spends outputs of earlier transactions (its inputs, each with an unlocking script
and a sequence number) and creates new outputs (each a value in satoshis and a locking script),
under a version and a lock time. Its serialization is the version (4 bytes), the inputs, the
outputs and the lock time (4 bytes), integers little-endian and lists and scripts behind their
variable-length counts. Its id is the double SHA-256 of that serialization, shown byte-reversed.
-/

namespace BranchLock

/-- A reference to an output of an earlier transaction. -/
structure OutPoint where
  /-- The id of the transaction, in serialization order. -/
  hash : Bytes
  /-- The position of the output in it. -/
  index : Nat
  deriving DecidableEq, Repr

/-- An input of a transaction. -/
structure TxIn where
  /-- The output spent. -/
  prevOut : OutPoint
  /-- The unlocking script. -/
  sigScript : Bytes
  /-- The sequence number. -/
  sequence : Nat
  deriving DecidableEq, Repr

/-- An output of a transaction. -/
structure TxOut where
  /-- The value in satoshis, a signed 64-bit number. -/
  value : Int
  /-- The locking script. -/
  pkScript : Bytes
  deriving DecidableEq, Repr

/-- A transaction. -/
structure Transaction where
  /-- The version, a signed 32-bit number. -/
  version : Int
  /-- The inputs, in order. -/
  inputs : List TxIn
  /-- The outputs, in order. -/
  outputs : List TxOut
  /-- The lock time. -/
  lockTime : Nat
  deriving DecidableEq, Repr

/-- A script or other byte string behind its length. -/
def varBytes (bs : Bytes) : Bytes := CompactSize.encode bs.length ++ bs

/-- The little-endian two's complement of a signed number in `width` bytes. -/
def signedLE (width : Nat) (v : Int) : Bytes :=
  Bytes.ofNatLE width (v % (Nat.pow 2 (8 * width) : Nat)).toNat

namespace Transaction

/-- The serialization of an input. -/
def TxIn.serialize (i : TxIn) : Bytes :=
  i.prevOut.hash ++ Bytes.ofNatLE 4 i.prevOut.index ++ varBytes i.sigScript ++
    Bytes.ofNatLE 4 i.sequence

/-- The serialization of an output. -/
def TxOut.serialize (o : TxOut) : Bytes := signedLE 8 o.value ++ varBytes o.pkScript

/-- The serialization of a transaction, without witness data. -/
def serialize (tx : Transaction) : Bytes :=
  signedLE 4 tx.version ++ CompactSize.encode tx.inputs.length ++
    tx.inputs.flatMap TxIn.serialize ++ CompactSize.encode tx.outputs.length ++
    tx.outputs.flatMap TxOut.serialize ++ Bytes.ofNatLE 4 tx.lockTime

/-- The id of a transaction, in serialization order. -/
def id (tx : Transaction) : Bytes := hash256 tx.serialize

/-- The transaction with the unlocking script of input `k` replaced. -/
def setSigScript (tx : Transaction) (k : Nat) (s : Bytes) : Transaction :=
  { tx with inputs := tx.inputs.modify k fun i => { i with sigScript := s } }

end Transaction

/-- The hexadecimal text of a hash in display order: byte-reversed. -/
def displayHex (h : Bytes) : String := Hex.encode h.reverse

/-- Why a text is not a hash in display order. -/
inductive HashTextError where
  /-- Longer than 64 characters. -/
  | tooLong
  /-- Not hexadecimal. -/
  | hex (e : Hex.DecodeError)
  deriving DecidableEq, Repr

/-- The text of a hash reading error. -/
def HashTextError.message : HashTextError → String
  | .tooLong => "max hash string length is 64 bytes"
  | .hex e => e.message

/-- Reads a hash in display order; a short text stands for a number with leading zeros, and an
odd one gets a leading zero digit. -/
def hashOfDisplay (s : Bytes) : Except HashTextError Bytes :=
  if s.length > 64 then .error .tooLong
  else
    let padded := if s.length % 2 = 1 then 48 :: s else s
    match Hex.decodeDigits padded with
    | .error e => .error (.hex e)
    | .ok bs => .ok (List.replicate (32 - bs.length) 0 ++ bs).reverse

end BranchLock
