import BranchLock.Branch.Composer
import BranchLock.Branch.Error
import BranchLock.Branch.Kind
import BranchLock.Branch.Set
import BranchLock.Branch.Shape
import BranchLock.Chain.Address
import BranchLock.Chain.Amount
import BranchLock.Chain.Base58
import BranchLock.Chain.Bech32
import BranchLock.Chain.CompactSize
import BranchLock.Chain.Network
import BranchLock.Chain.Transaction
import BranchLock.Chain.Wif
import BranchLock.Cli.Help
import BranchLock.Cli.Parse
import BranchLock.Cli.Spec
import BranchLock.Curve.Ecdsa
import BranchLock.Curve.PublicKey
import BranchLock.Curve.Secp256k1
import BranchLock.Data.Binary64
import BranchLock.Data.Bytes
import BranchLock.Data.Disk
import BranchLock.Data.Failure
import BranchLock.Data.Hex
import BranchLock.Data.Numeral
import BranchLock.Data.Path
import BranchLock.Data.Printable
import BranchLock.Data.Text
import BranchLock.Data.Utf8
import BranchLock.Hash.Digest
import BranchLock.Hash.Ripemd160
import BranchLock.Hash.Sha1
import BranchLock.Hash.Sha256
import BranchLock.Main
import BranchLock.Proofs.AssemblerCalls
import BranchLock.Proofs.AssemblerErrors
import BranchLock.Proofs.AssemblerLifecycle
import BranchLock.Proofs.ConditionalRouting
import BranchLock.Proofs.InterpreterRuns
import BranchLock.Proofs.ScriptReading
import BranchLock.Proofs.UnspendableSets
import BranchLock.Script.Builder
import BranchLock.Script.Disasm
import BranchLock.Script.Engine
import BranchLock.Script.Error
import BranchLock.Script.Number
import BranchLock.Script.Opcode
import BranchLock.Script.SigHash
import BranchLock.Script.Signature
import BranchLock.Script.Stack
import BranchLock.Script.Standard
import BranchLock.Script.Token
import BranchLock.Spend.Assembler
import BranchLock.Spend.InputState
import BranchLock.Spend.Unlock
import BranchLock.Spend.Verify
import BranchLock.Store.Cache
import BranchLock.Store.Codec
import BranchLock.Store.Contents
import BranchLock.Store.Engine
import BranchLock.Store.Open
import BranchLock.Store.Range
import BranchLock.Store.Sets
import BranchLock.Store.Suite
import BranchLock.Tool.Config
import BranchLock.Tool.Program
import BranchLock.Tool.Report
import BranchLock.Tool.Spec
import BranchLock.Tool.Spend
import BranchLock.Tool.Version
import BranchLock.Proofs.StoredForm
import BranchLock.Proofs.StoreRefinement
import BranchLock.Proofs.ConcurrentStore
import BranchLock.Proofs.FoldedScript
import BranchLock.Proofs.ComposerSealing
import BranchLock.Proofs.MultisigUnlock
import BranchLock.Proofs.UnlockingScripts
import BranchLock.Proofs.BranchPaths
import BranchLock.Proofs.SpendValue
import BranchLock.Proofs.CacheShape
import BranchLock.Proofs.StoreIntegrity
import BranchLock.Proofs.PrefixRanges
import BranchLock.Proofs.SignatureEncoding
import BranchLock.Proofs.ConditionalExecution
import BranchLock.Proofs.PayToHash
import BranchLock.Proofs.BranchSpending
