import PrepaidLedger.Engine.Program
import PrepaidLedger.Ledger.Fee

/-!
Collecting fees: one line at a time after its change is committed, and a sweep over the lines that
still owe one.
-/
namespace PrepaidLedger

inductive Collection
  | notDue
  | settled (chargeRef : String)
  | failed
deriving DecidableEq, Repr

def Charge.ofLine (l : Line) (userRef : String) : Charge where
  userRef := userRef
  amount := l.fee
  description := l.feeKind.description ++ " for " ++ l.reference
  idempotencyKey := "fee:" ++ l.reference

/-- Charges the fee that a line owes and marks it settled. A charge that cannot be recorded counts
as failed: the next sweep repeats it under its key. -/
def collectFee (l : Line) (userRef : String) : Program Collection := do
  if l.feeDue then
    match ← .request (.charge (.ofLine l userRef)) with
    | none => return .failed
    | some receipt =>
      match ← .request (.store (.settleFee l.id (some receipt))) with
      | .error _ => return .failed
      | .ok _ => return .settled receipt
  else return .notDue

structure SweepSummary where
  attempted : Nat
  settled : Nat
  failed : Nat
deriving DecidableEq, Repr

namespace SweepSummary

def empty : SweepSummary := ⟨0, 0, 0⟩

def count (s : SweepSummary) : Collection → SweepSummary
  | .notDue => { s with attempted := s.attempted + 1 }
  | .settled _ => { s with attempted := s.attempted + 1, settled := s.settled + 1 }
  | .failed => { s with attempted := s.attempted + 1, failed := s.failed + 1 }

end SweepSummary

/-- A line whose card-user is gone is passed over. -/
def sweepLines (summary : SweepSummary) : List Line → Task SweepSummary
  | [] => pure summary
  | l :: rest => do
    match ← Task.store (.cardUserById l.cardUserId) with
    | none => sweepLines summary rest
    | some owner =>
      let c ← Task.ofProgram (collectFee l owner.providerRef)
      sweepLines (summary.count c) rest

def sweepFees (limit : Int) : Task SweepSummary := do
  sweepLines .empty (← Task.store (.unsettledFees limit))

end PrepaidLedger
