/-!
# Failures and where they come from

Every operation of the library that can fail returns an error value of its own domain type.
Callers that only report errors need two things of each: its text, and the component that
raised it together with the name of its code. `Failure` is that common view; each error type
gives an instance beside its definition, and wrapping errors report the component of the error
they wrap, unless they carry a code of their own.
-/

namespace BranchLock

/-- The component an error comes from. -/
inductive Component where
  /-- The branch set store. -/
  | store
  /-- Shapes, composers and assemblers of branch sets. -/
  | branch
  /-- The script interpreter. -/
  | script
  /-- The canonical script builder. -/
  | builder
  /-- Transaction and number encodings. -/
  | wire
  /-- The key/value engine contract, shared by both backends. -/
  | engine
  /-- The log-structured key/value backend. -/
  | pebble
  /-- The sorted-table key/value backend. -/
  | leveldb
  /-- The command-line flag reader. -/
  | flags
  /-- An error with no code of its own: text only. -/
  | plain
  deriving DecidableEq, Repr

/-- The common view of an error: its text, its component and the name of its code within the
component (empty for plain errors). -/
class Failure (ε : Type) where
  /-- The text of the error. -/
  message : ε → String
  /-- The component the error comes from, and the name of its code there. -/
  origin : ε → Component × String

/-- A text-only error. -/
structure PlainError where
  /-- The text. -/
  text : String
  deriving DecidableEq, Repr

/-- A plain error is its text alone. -/
instance : Failure PlainError where
  message e := e.text
  origin _ := (.plain, "")

/-! ## Wrapping errors -/

/-- Wrapping the error of a result leaves a success as it is. -/
@[simp] theorem Except.mapError_ok {ε ε' α : Type} (f : ε → ε') (a : α) :
    (Except.ok a : Except ε α).mapError f = .ok a := rfl

/-- Wrapping the error of a failed result wraps its error. -/
@[simp] theorem Except.mapError_error {ε ε' α : Type} (f : ε → ε') (e : ε) :
    (Except.error e : Except ε α).mapError f = .error (f e) := rfl

/-- Wrapping the error of a result succeeds exactly when the result does. -/
theorem Except.mapError_eq_ok {ε ε' α : Type} {f : ε → ε'} {x : Except ε α} {a : α} :
    x.mapError f = .ok a ↔ x = .ok a := by
  cases x with
  | error e =>
    rw [Except.mapError_error]
    exact ⟨fun h => (by cases h), fun h => (by cases h)⟩
  | ok b => rw [Except.mapError_ok, Except.ok.injEq, Except.ok.injEq]

/-- A result built by binding succeeds exactly when its first part does and the rest succeeds
on that. -/
theorem Except.bind_eq_ok {ε α β : Type} {x : Except ε α} {f : α → Except ε β} {b : β} :
    x >>= f = .ok b ↔ ∃ a, x = .ok a ∧ f a = .ok b := by
  cases x <;> simp [bind, Except.bind]

end BranchLock
