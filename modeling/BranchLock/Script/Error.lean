import BranchLock.Script.Token
import BranchLock.Data.Failure

/-!
# Errors of the script interpreter

The interpreter stops at the first rule a script breaks and reports it as a `ScriptError`: a
`ScriptCode` naming the rule, and a text that says how it was broken. The codes are those
callers test for; the texts carry the values involved.
-/

namespace BranchLock

/-- The rules a script can break. -/
inductive ScriptCode where
  | invalidFlags
  | invalidIndex
  | earlyReturn
  | emptyStack
  | evalFalse
  | scriptUnfinished
  | invalidProgramCounter
  | scriptTooBig
  | elementTooBig
  | tooManyOperations
  | stackOverflow
  | invalidPubKeyCount
  | invalidSignatureCount
  | numberTooBig
  | verify
  | equalVerify
  | numEqualVerify
  | checkSigVerify
  | checkMultiSigVerify
  | disabledOpcode
  | reservedOpcode
  | malformedPush
  | invalidStackOperation
  | unbalancedConditional
  | minimalData
  | invalidSigHashType
  | sigTooShort
  | sigTooLong
  | sigInvalidSeqId
  | sigInvalidDataLen
  | sigMissingSTypeId
  | sigMissingSLen
  | sigInvalidSLen
  | sigInvalidRIntId
  | sigZeroRLen
  | sigNegativeR
  | sigTooMuchRPadding
  | sigInvalidSIntId
  | sigZeroSLen
  | sigNegativeS
  | sigTooMuchSPadding
  | sigHighS
  | notPushOnly
  | sigNullDummy
  | pubKeyType
  | cleanStack
  | nullFail
  | codeSeparator
  | nonConstScriptCode
  | witnessMalleated
  | discourageUpgradableNops
  | negativeLockTime
  | unsatisfiedLockTime
  | discourageUpgradableWitnessProgram
  | witnessProgramEmpty
  | witnessProgramMismatch
  | witnessProgramWrongLength
  deriving DecidableEq, Repr

/-- The name of a rule, as callers test for it. -/
def ScriptCode.name : ScriptCode → String
  | .invalidFlags => "ErrInvalidFlags"
  | .invalidIndex => "ErrInvalidIndex"
  | .earlyReturn => "ErrEarlyReturn"
  | .emptyStack => "ErrEmptyStack"
  | .evalFalse => "ErrEvalFalse"
  | .scriptUnfinished => "ErrScriptUnfinished"
  | .invalidProgramCounter => "ErrInvalidProgramCounter"
  | .scriptTooBig => "ErrScriptTooBig"
  | .elementTooBig => "ErrElementTooBig"
  | .tooManyOperations => "ErrTooManyOperations"
  | .stackOverflow => "ErrStackOverflow"
  | .invalidPubKeyCount => "ErrInvalidPubKeyCount"
  | .invalidSignatureCount => "ErrInvalidSignatureCount"
  | .numberTooBig => "ErrNumberTooBig"
  | .verify => "ErrVerify"
  | .equalVerify => "ErrEqualVerify"
  | .numEqualVerify => "ErrNumEqualVerify"
  | .checkSigVerify => "ErrCheckSigVerify"
  | .checkMultiSigVerify => "ErrCheckMultiSigVerify"
  | .disabledOpcode => "ErrDisabledOpcode"
  | .reservedOpcode => "ErrReservedOpcode"
  | .malformedPush => "ErrMalformedPush"
  | .invalidStackOperation => "ErrInvalidStackOperation"
  | .unbalancedConditional => "ErrUnbalancedConditional"
  | .minimalData => "ErrMinimalData"
  | .invalidSigHashType => "ErrInvalidSigHashType"
  | .sigTooShort => "ErrSigTooShort"
  | .sigTooLong => "ErrSigTooLong"
  | .sigInvalidSeqId => "ErrSigInvalidSeqID"
  | .sigInvalidDataLen => "ErrSigInvalidDataLen"
  | .sigMissingSTypeId => "ErrSigMissingSTypeID"
  | .sigMissingSLen => "ErrSigMissingSLen"
  | .sigInvalidSLen => "ErrSigInvalidSLen"
  | .sigInvalidRIntId => "ErrSigInvalidRIntID"
  | .sigZeroRLen => "ErrSigZeroRLen"
  | .sigNegativeR => "ErrSigNegativeR"
  | .sigTooMuchRPadding => "ErrSigTooMuchRPadding"
  | .sigInvalidSIntId => "ErrSigInvalidSIntID"
  | .sigZeroSLen => "ErrSigZeroSLen"
  | .sigNegativeS => "ErrSigNegativeS"
  | .sigTooMuchSPadding => "ErrSigTooMuchSPadding"
  | .sigHighS => "ErrSigHighS"
  | .notPushOnly => "ErrNotPushOnly"
  | .sigNullDummy => "ErrSigNullDummy"
  | .pubKeyType => "ErrPubKeyType"
  | .cleanStack => "ErrCleanStack"
  | .nullFail => "ErrNullFail"
  | .codeSeparator => "ErrCodeSeparator"
  | .nonConstScriptCode => "ErrNonConstScriptCode"
  | .witnessMalleated => "ErrWitnessMalleated"
  | .discourageUpgradableNops => "ErrDiscourageUpgradableNOPs"
  | .negativeLockTime => "ErrNegativeLockTime"
  | .unsatisfiedLockTime => "ErrUnsatisfiedLockTime"
  | .discourageUpgradableWitnessProgram => "ErrDiscourageUpgradableWitnessProgram"
  | .witnessProgramEmpty => "ErrWitnessProgramEmpty"
  | .witnessProgramMismatch => "ErrWitnessProgramMismatch"
  | .witnessProgramWrongLength => "ErrWitnessProgramWrongLength"

/-- A broken rule and how it was broken. -/
structure ScriptError where
  /-- The rule. -/
  code : ScriptCode
  /-- What happened, with the values involved. -/
  text : String
  deriving DecidableEq, Repr

/-- A script error is reported by its text, under the interpreter and its code. -/
instance : Failure ScriptError where
  message e := e.text
  origin e := (.script, e.code.name)

/-- The interpreter's report of a malformed push. -/
def PushError.toScriptError (e : PushError) : ScriptError := ⟨.malformedPush, e.message⟩

end BranchLock
