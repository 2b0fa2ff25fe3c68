import PrepaidLedger.Ledger.Line
import PrepaidLedger.Number.Shortest

/-!
What can go wrong with an event: business rejections, which are answers, and errors, which undo the
store transaction they arise in. Each cause is a constructor; the wording stands in one function per
type.
-/
namespace PrepaidLedger

inductive Rejection
  | cardNotFound
  | cardUserNotFound
  | cardNotActive
  | insufficientBalance
  | unauthorizedCardAccess
  | invalidStatusTransition
  | amountMismatch
  | invalidAmountForDeclined
deriving DecidableEq, Repr

def Rejection.code : Rejection → String
  | .cardNotFound => "card_not_found"
  | .cardUserNotFound => "card_user_not_found"
  | .cardNotActive => "card_not_active"
  | .insufficientBalance => "insufficient_balance"
  | .unauthorizedCardAccess => "unauthorized_card_access"
  | .invalidStatusTransition => "invalid_status_transition"
  | .amountMismatch => "amount_mismatch"
  | .invalidAmountForDeclined => "invalid_amount_for_declined"

inductive StoreError
  | database (detail : String)
  | corruptRow (table detail : String)
deriving DecidableEq, Repr

def StoreError.message : StoreError → String
  | .database detail => "Database error: " ++ detail
  | .corruptRow table detail => "Corrupt row in " ++ table ++ ": " ++ detail

inductive LockError
  | timeout (key : String)
  | backend (detail : String)
deriving DecidableEq, Repr

def LockError.message : LockError → String
  | .timeout key => "Timed out waiting for lock " ++ key
  | .backend detail => "Lock backend error: " ++ detail

inductive Entity
  | card
  | cardUser
  | line
  | entry
deriving DecidableEq, Repr

def Entity.name : Entity → String
  | .card => "card"
  | .cardUser => "card_user"
  | .line => "card_transaction"
  | .entry => "main_transaction"

inductive AmountFault
  | notFinite (raw : Binary64)
  | negativeRaw (raw : Binary64)
  | fractional (raw : Binary64)
  | negative (amount : Int)
  | negativeFee (fee : Int)
deriving DecidableEq, Repr

def AmountFault.message : AmountFault → String
  | .notFinite raw => raw.text ++ " is not finite"
  | .negativeRaw raw => raw.text ++ " is negative"
  | .fractional raw => raw.text ++ " has fractional minor units"
  | .negative amount => toString amount ++ " is negative"
  | .negativeFee fee => "fee " ++ toString fee ++ " is negative"

inductive Excess
  | raw (x : Binary64)
  | amount (n : Int)
  | sum (balance delta : Int)
deriving DecidableEq, Repr

def Excess.text : Excess → String
  | .raw x => x.wholeText
  | .amount n => toString n
  | .sum balance delta => toString balance ++ " + " ++ toString delta

inductive EngineError
  | missing (entity : Entity) (id : RowId)
  | unverified (entity : Entity) (id : Uuid) (expected : Int) (found : Option Int)
  | invalidAmount (fault : AmountFault)
  | amountTooLarge (excess : Excess)
  | nonPositiveCredit (amount fee : Int)
  | negativeBalance (entity : Entity) (id : Uuid)
  | store (e : StoreError)
  | lock (e : LockError)
deriving DecidableEq, Repr

namespace EngineError

def foundText : Option Int → String
  | some n => "Some(" ++ toString n ++ ")"
  | none => "None"

def message : EngineError → String
  | .missing entity id => entity.name ++ " " ++ id.text ++ " not found during balance update"
  | .unverified entity id expected found =>
    "Balance update verification failed for " ++ entity.name ++ " " ++ id.text ++ ": expected " ++
      toString expected ++ ", found " ++ foundText found
  | .invalidAmount fault => "Invalid amount: " ++ fault.message
  | .amountTooLarge excess => "Amount " ++ excess.text ++ " exceeds the maximum safe integer"
  | .nonPositiveCredit amount fee =>
    "Amount to credit must be positive (amount " ++ toString amount ++ ", fee " ++
      toString fee ++ ")"
  | .negativeBalance entity id =>
    "Balance of " ++ entity.name ++ " " ++ id.text ++ " would become negative"
  | .store e => e.message
  | .lock e => e.message

def isRetryable : EngineError → Bool
  | .lock _ => true
  | _ => false

end EngineError
end PrepaidLedger
