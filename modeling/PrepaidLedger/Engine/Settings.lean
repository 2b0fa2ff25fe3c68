import PrepaidLedger.Card.Decline
import PrepaidLedger.Ledger.Fee
import PrepaidLedger.Ledger.Transition

/-!
What an operator decides about the ledger.
-/
namespace PrepaidLedger

/-- When the effects of a committed change run: after the answer is given, or before it. -/
inductive EffectTiming
  | background
  | inline
deriving DecidableEq, Repr

structure Settings where
  tolerance : Tolerance
  declinePolicy : DeclinePolicy
  /-- Recorded where an event names no currency. -/
  currency : String
  fees : FeeSchedule
  effects : EffectTiming
deriving DecidableEq, Repr

def Settings.standard (fees : FeeSchedule) : Settings :=
  ⟨.standard, .standard, "USD", fees, .inline⟩

end PrepaidLedger
