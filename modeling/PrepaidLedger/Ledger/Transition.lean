import PrepaidLedger.Error

/-!
Whether an event may change the line stored for its reference: it is new, it repeats what is stored,
or it contradicts it. Amounts are compared by a relative tolerance.
-/
namespace PrepaidLedger

/-- Status and amount, of a stored line or of an event. -/
structure Snapshot where
  status : LineStatus
  amount : Int
deriving DecidableEq, Repr

def Line.snapshot (l : Line) : Snapshot := ⟨l.status, l.amount⟩

inductive Verdict
  | proceed
  | duplicate
  | reject (r : Rejection)
deriving DecidableEq, Repr

namespace Verdict

def isValid : Verdict → Bool
  | .reject _ => false
  | _ => true

def shouldSkip (v : Verdict) : Bool := v = .duplicate

def mayProceed (v : Verdict) : Bool := v.isValid && !v.shouldSkip

def duplicateReason : String := "transaction_already_processed"

def reason? : Verdict → Option String
  | .proceed => none
  | .duplicate => some duplicateReason
  | .reject r => some r.code

end Verdict

/-- Greatest accepted change of an amount, in basis points of the stored one. -/
structure Tolerance where
  bps : Nat
deriving DecidableEq, Repr

namespace Tolerance

def basisPoints : Int := 10000

def standard : Tolerance := ⟨500⟩

/-- The change in basis points, rounded up; nothing is relative to zero. -/
def relativeChange? (stored incoming : Int) : Option Int :=
  if stored = 0 then none
  else
    let difference : Int := (incoming - stored).natAbs
    let base : Int := stored.natAbs
    some ((difference * basisPoints + base - 1) / base)

def within (t : Tolerance) (stored incoming : Int) : Bool :=
  match relativeChange? stored incoming with
  | some change => change ≤ t.bps
  | none => incoming = 0

end Tolerance

/-- The rules in order of precedence. A decline that carries an amount where nothing was held is
told apart before the amounts are compared, since nothing is relative to zero. -/
def validateTransition (existing : Option Snapshot) (incoming : Snapshot) (t : Tolerance) :
    Verdict :=
  match existing with
  | none => .proceed
  | some stored =>
    let within := t.within stored.amount incoming.amount
    if stored.status = incoming.status ∧ within then .duplicate
    else if stored.status.isTerminal ∧ stored.status ≠ incoming.status then
      .reject .invalidStatusTransition
    else if stored.amount = 0 ∧ incoming.status = .declined ∧ incoming.amount ≠ 0 then
      .reject .invalidAmountForDeclined
    else if !within then .reject .amountMismatch
    else .proceed

end PrepaidLedger
