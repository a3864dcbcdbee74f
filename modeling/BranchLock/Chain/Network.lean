/-!
# Networks

The four networks a key or address can belong to, each with the version bytes of its base58
payloads and the human-readable part of its segwit addresses.
-/

namespace BranchLock

/-- A network: its name and the tags that mark its keys and addresses. -/
structure Network where
  /-- The name, as the tool prints it. -/
  name : String
  /-- The version byte of pay-to-pubkey-hash addresses. -/
  pubKeyHashId : UInt8
  /-- The version byte of pay-to-script-hash addresses. -/
  scriptHashId : UInt8
  /-- The version byte of private keys in wallet import format. -/
  privateKeyId : UInt8
  /-- The human-readable part of segwit addresses. -/
  segwitHrp : String
  deriving DecidableEq, Repr

namespace Network

/-- The main network. -/
def mainnet : Network := ⟨"mainnet", 0x00, 0x05, 0x80, "bc"⟩

/-- The public test network. -/
def testnet3 : Network := ⟨"testnet3", 0x6f, 0xc4, 0xef, "tb"⟩

/-- The local regression test network. -/
def regtest : Network := ⟨"regtest", 0x6f, 0xc4, 0xef, "bcrt"⟩

/-- The simulation test network. -/
def simnet : Network := ⟨"simnet", 0x3f, 0x7b, 0x64, "sb"⟩

/-- The network of a name, if it is one of the four. -/
def ofName? (s : String) : Option Network :=
  [mainnet, testnet3, regtest, simnet].find? (·.name = s)

/-- The segwit prefixes (human-readable part and separator) of every known network, the signet
test network's included. -/
def segwitPrefixes : List String := ["bc1", "tb1", "bcrt1", "sb1"]

end Network

end BranchLock
