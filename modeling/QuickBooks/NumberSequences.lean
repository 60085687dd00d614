import QuickBooks.BooksPreparation

/-!
# Number sequences under the two builds

The counter of a document type is a 64-bit integer.  A build with overflow
checks stops at the largest one; the release build has none and goes on from
the smallest.  The sequence operations are given for both; with the checks they
are those of the books.
-/

namespace QuickBooks

open ExceptPrograms TransactionPrograms

/-- How a build adds one to the largest integer. -/
inductive Build where
  | checked
  | wrapping
deriving DecidableEq

def wrapInt64 (number : Int) : Int :=
  Int.bmod number 18446744073709551616

/-- The next integer after one of 64 bits. -/
def Build.next (build : Build) (number : Int) : Except BooksError Int :=
  match build with
  | .checked =>
    if 9223372036854775807 ≤ number then throw .additionOverflowed else return number + 1
  | .wrapping => return wrapInt64 (number + 1)

namespace Ledger

variable (ledger : Ledger)

/-- The number after every numeric one saved. -/
def savedNextIn (build : Build) (kind : DocKind) : Except BooksError Int :=
  match ledger.highestNumber kind with
  | some highest => build.next highest
  | none => return firstNumber

/-- Where the sequence of a type stands, or starts. -/
def sequenceStartIn (build : Build) (kind : DocKind) : Except BooksError Int :=
  match ledger.docSequences.lookup kind with
  | some next => return next
  | none => ledger.savedNextIn build kind

/-- The first number from a candidate on that no document of the type holds. -/
def freeNumberIn (build : Build) (kind : DocKind) : Nat → Int → Except BooksError Int
  | 0, candidate => return candidate
  | attempts + 1, candidate =>
    if (ledger.numberOwner kind (toString candidate)).isSome then do
      let candidate ← build.next candidate
      freeNumberIn build kind attempts candidate
    else return candidate

/-- The number to hand out and where that leaves the sequence. -/
def allocateIn (build : Build) (kind : DocKind) : Except BooksError (Int × Int) := do
  let start ← ledger.sequenceStartIn build kind
  let candidate ← ledger.freeNumberIn build kind (ledger.documentVersions.length + 1) start
  let next ← build.next candidate
  return (candidate, next)

end Ledger

def nextNumberIn (build : Build) (kind : DocKind) : BooksProgram Int := do
  let (candidate, next) ← reading fun ledger => ledger.allocateIn build kind
  modify fun ledger => ledger.withNextNumber kind next
  return candidate

def ensureNextNumberIn (build : Build) (kind : DocKind) (atLeast : Int) :
    BooksProgram Int := do
  let ledger ← get
  let savedNext ← MonadExcept.ofExcept (ledger.savedNextIn build kind)
  let next := max (max ((ledger.docSequences.lookup kind).getD savedNext) savedNext) atLeast
  modify fun ledger => ledger.withNextNumber kind next
  return next

def Ledger.SequencesFit (ledger : Ledger) : Prop :=
  ∀ row ∈ ledger.docSequences,
    -9223372036854775808 ≤ row.2 ∧ row.2 ≤ 9223372036854775807

end QuickBooks
