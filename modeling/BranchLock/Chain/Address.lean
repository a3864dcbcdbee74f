import BranchLock.Chain.Network
import BranchLock.Chain.Base58
import BranchLock.Chain.Bech32
import BranchLock.Curve.PublicKey
import BranchLock.Script.Standard

/-!
# Addresses

An address names an output script: pay to the hash of a key or of a script (base58check with the
network's version byte), a bare public key (written as the hash of its key), or a segwit
witness program (bech32 with the network's human-readable part).

Reading an address tries, in order: a segwit text when it starts with a known segwit prefix; a
hexadecimal public key when it is 66 or 130 characters long; and otherwise base58check, where
a 20-byte payload is a key hash or script hash by the version bytes of the network asked for.
-/

namespace BranchLock

/-- The form a public key takes in a pay-to-pubkey script. A key read in the hybrid form is
written back uncompressed. -/
inductive KeyForm where
  /-- 33 bytes, parity then `x`. -/
  | compressed
  /-- 65 bytes, `0x04`, `x`, `y`. -/
  | uncompressed
  deriving DecidableEq, Repr

/-- A decoded address. -/
inductive Address where
  /-- Pays to a 20-byte key hash under a version byte. -/
  | pubKeyHash (hash : Bytes) (netId : UInt8)
  /-- Pays to a 20-byte script hash under a version byte. -/
  | scriptHash (hash : Bytes) (netId : UInt8)
  /-- Pays to a bare key, written in its form, on the network of a key-hash version byte. -/
  | pubKey (key : PublicKey) (form : KeyForm) (netId : UInt8)
  /-- A version 0 witness program of a 20-byte key hash. -/
  | witnessPubKeyHash (hrp : String) (program : Bytes)
  /-- A version 0 witness program of a 32-byte script hash. -/
  | witnessScriptHash (hrp : String) (program : Bytes)
  /-- A version 1 witness program of a 32-byte key. -/
  | taproot (hrp : String) (program : Bytes)
  deriving DecidableEq, Repr

/-- Why a text is not an address. -/
inductive AddressError where
  /-- The base58check checksum does not match. -/
  | checksumMismatch
  /-- The text is no known form. -/
  | unknownFormat
  /-- A base58 text with a valid checksum carries a payload of other than 20 bytes. -/
  | unknownSize
  /-- A 20-byte payload has a version byte of neither kind for the network. -/
  | unknownType
  /-- Both kinds of version byte are equal on the network. -/
  | collision
  /-- A hexadecimal key text is not hexadecimal. -/
  | hex (e : Hex.DecodeError)
  /-- A hexadecimal key text is not a public key. -/
  | key (e : PubKeyError)
  /-- A segwit text is not bech32. -/
  | bech32 (e : Bech32.DecodeError)
  /-- The bech32 text has no witness version. -/
  | noWitnessVersion
  /-- The witness version is above 16. -/
  | invalidWitnessVersion (v : Nat)
  /-- The program is shorter than 2 or longer than 40 bytes. -/
  | invalidDataLength
  /-- A version 0 program is neither 20 nor 32 bytes. -/
  | invalidV0Length (len : Nat)
  /-- A version 0 program carries the bech32m checksum. -/
  | expectedBech32
  /-- A version 1 program carries the bech32 checksum. -/
  | expectedBech32m
  /-- Only witness versions 0 and 1 are supported. -/
  | unsupportedWitnessVersion (v : Nat)
  /-- The program length fits no supported witness address. -/
  | unsupportedProgramLength (len : Nat)
  deriving DecidableEq, Repr

/-- The text of an address reading error. -/
def AddressError.message : AddressError → String
  | .checksumMismatch => "checksum mismatch"
  | .unknownFormat => "decoded address is of unknown format"
  | .unknownSize => "decoded address is of unknown size"
  | .unknownType => "unknown address type"
  | .collision => "address collision"
  | .hex e => e.message
  | .key e => e.message
  | .bech32 e => e.message
  | .noWitnessVersion => "no witness version"
  | .invalidWitnessVersion v => "invalid witness version: " ++ toString v
  | .invalidDataLength => "invalid data length"
  | .invalidV0Length n => "invalid data length for witness version 0: " ++ toString n
  | .expectedBech32 =>
    "invalid checksum expected bech32 encoding for address with witness version 0"
  | .expectedBech32m =>
    "invalid checksum expected bech32m encoding for address with witness version 1"
  | .unsupportedWitnessVersion v =>
    "unsupported witness version: 0x" ++ String.ofList (Nat.toDigits 16 v)
  | .unsupportedProgramLength n => "unsupported witness program length: " ++ toString n

/-- An address error is plain text. -/
instance : Failure AddressError where
  message := AddressError.message
  origin _ := (.plain, "")

namespace Address

/-- The bytes of a bare key address in its form. -/
def keyBytes (key : PublicKey) : KeyForm → Bytes
  | .compressed => key.compressed
  | .uncompressed => key.uncompressed

/-- The five-bit groups of a byte string, the last one padded with zero bits. -/
def toGroups (bs : Bytes) : List Nat :=
  let bits := 8 * bs.length
  let count := (bits + 4) / 5
  let padded := Bytes.toNatBE bs * Nat.pow 2 (5 * count - bits)
  (List.range count).map fun i => (padded / Nat.pow 32 (count - 1 - i)) % 32

/-- The bech32 text of a witness program. -/
def segwitText (hrp : String) (version : Nat) (program : Bytes) : String :=
  let data := version :: toGroups program
  let v := if version = 0 then Bech32.Variant.bech32 else .bech32m
  hrp ++ "1" ++ String.ofList (data.map fun g => Bech32.charset.getD g 'q') ++
    Bech32.checksumText hrp data v

/-- The text of an address. -/
def encode : Address → String
  | .pubKeyHash h id => Base58.checkEncode id h
  | .scriptHash h id => Base58.checkEncode id h
  | .pubKey k f id => Base58.checkEncode id (hash160 (keyBytes k f))
  | .witnessPubKeyHash hrp prog => segwitText hrp 0 prog
  | .witnessScriptHash hrp prog => segwitText hrp 0 prog
  | .taproot hrp prog => segwitText hrp 1 prog

/-- Whether an address belongs to a network. -/
def isForNet (a : Address) (net : Network) : Bool :=
  match a with
  | .pubKeyHash _ id => id = net.pubKeyHashId
  | .scriptHash _ id => id = net.scriptHashId
  | .pubKey _ _ id => id = net.pubKeyHashId
  | .witnessPubKeyHash hrp _ => hrp = net.segwitHrp
  | .witnessScriptHash hrp _ => hrp = net.segwitHrp
  | .taproot hrp _ => hrp = net.segwitHrp

/-- The output script an address pays to. -/
def outputScript : Address → Bytes
  | .pubKeyHash h _ => Script.payToPubKeyHash h
  | .scriptHash h _ => Script.payToScriptHash h
  | .pubKey k f _ =>
    let kb := keyBytes k f
    UInt8.ofNat kb.length :: kb ++ [Opcode.opCheckSig]
  | .witnessPubKeyHash _ prog => [Opcode.op0, UInt8.ofNat prog.length] ++ prog
  | .witnessScriptHash _ prog => [Opcode.op0, UInt8.ofNat prog.length] ++ prog
  | .taproot _ prog => [Opcode.op1, UInt8.ofNat prog.length] ++ prog

/-- The bare key address of a key text: compressed when its first byte says so, uncompressed
otherwise. -/
def ofKeyBytes (bs : Bytes) (net : Network) : Except PubKeyError Address := do
  let key ← PublicKey.parse bs
  let form := match bs.head? with
    | some 2 => KeyForm.compressed
    | some 3 => KeyForm.compressed
    | _ => KeyForm.uncompressed
  return .pubKey key form net.pubKeyHashId

/-- Reads a segwit address. -/
def decodeSegwit (s : Bytes) : Except AddressError Address := do
  let (hrp, data, variant) ← (Bech32.decode s).mapError AddressError.bech32
  match data with
  | [] => throw .noWitnessVersion
  | version :: rest =>
    if version > 16 then throw (.invalidWitnessVersion version)
    let prog ← (Bech32.toBytes rest).mapError AddressError.bech32
    if prog.length < 2 ∨ prog.length > 40 then throw .invalidDataLength
    if version = 0 ∧ prog.length ≠ 20 ∧ prog.length ≠ 32 then
      throw (.invalidV0Length prog.length)
    if version = 0 ∧ variant ≠ .bech32 then throw .expectedBech32
    if version = 1 ∧ variant ≠ .bech32m then throw .expectedBech32m
    if version ≠ 0 ∧ version ≠ 1 then throw (.unsupportedWitnessVersion version)
    if prog.length = 20 then return .witnessPubKeyHash hrp prog
    else if prog.length = 32 then
      return (if version = 1 then .taproot hrp prog else .witnessScriptHash hrp prog)
    else throw (.unsupportedProgramLength prog.length)

/-- The position of the last `1` of a text, where a bech32 text ends its prefix. -/
def lastSeparator? (cs : List Char) : Option Nat :=
  (cs.reverse.idxOf? '1').map fun k => cs.length - 1 - k

/-- Whether a text starts with the segwit prefix of a known network, up to its last `1`, in
either case. -/
def hasSegwitPrefix (s : Bytes) : Bool :=
  let cs := s.chars
  match lastSeparator? cs with
  | some i =>
    decide (i > 1) &&
      Network.segwitPrefixes.contains (String.ofList ((cs.take (i + 1)).map Char.toLower))
  | none => false

/-- Reads an address, taking base58 version bytes by the network given. A text of 66 or 130
bytes is read as the hexadecimal form of a public key. -/
def decode (s : Bytes) (net : Network) : Except AddressError Address := do
  if hasSegwitPrefix s then decodeSegwit s
  else if s.length = 130 ∨ s.length = 66 then
    let bs ← (Hex.decodeDigits s).mapError AddressError.hex
    (ofKeyBytes bs net).mapError AddressError.key
  else
    match Base58.checkDecode s with
    | .error .checksumMismatch => throw .checksumMismatch
    | .error .invalidFormat => throw .unknownFormat
    | .ok (id, payload) =>
      if payload.length = 20 then
        let isKeyHash : Bool := decide (id = net.pubKeyHashId)
        let isScriptHash : Bool := decide (id = net.scriptHashId)
        if isKeyHash && isScriptHash then throw .collision
        else if isKeyHash then return .pubKeyHash payload id
        else if isScriptHash then return .scriptHash payload id
        else throw .unknownType
      else throw .unknownSize

end Address

end BranchLock
