import PrepaidLedger.Card.Basic
import PrepaidLedger.Ledger.Transition

/-!
Balance arithmetic: which amounts are accepted, how an event moves a balance, and the bounds a new
balance must keep. Nothing here touches a store.
-/
namespace PrepaidLedger

/-- The greatest amount or balance: beyond it not every whole number is a float. -/
def maxSafeAmount : Int := 9007199254740991

/-- A wire amount in minor units: finite, not negative, whole and within the ceiling. Minus zero is
zero. -/
def toMinorUnits (raw : Binary64) : Except EngineError Int :=
  match raw with
  | .finite negative significand exponent =>
    if negative ∧ significand ≠ 0 then .error (.invalidAmount (.negativeRaw raw))
    else
      let (whole, exact) := Binary64.wholePart significand exponent
      if !exact then .error (.invalidAmount (.fractional raw))
      else if maxSafeAmount < whole then .error (.amountTooLarge (.raw raw))
      else .ok whole
  | _ => .error (.invalidAmount (.notFinite raw))

def ensureSafeAmount (amount : Int) : Except EngineError Int :=
  if amount < 0 then .error (.invalidAmount (.negative amount))
  else if maxSafeAmount < amount then .error (.amountTooLarge (.amount amount))
  else .ok amount

/-- What is left of a deposit once its fee is taken, which must be positive. -/
def depositCredit (amount fee : Int) : Except EngineError Int :=
  match ensureSafeAmount amount with
  | .error e => .error e
  | .ok amount =>
    if fee < 0 then .error (.invalidAmount (.negativeFee fee))
    else if amount - fee ≤ 0 then .error (.nonPositiveCredit amount fee)
    else .ok (amount - fee)

/-- A sum outside the signed 64-bit range counts as too large whichever way it leaves it. -/
def applyDelta (entity : Entity) (id : Uuid) (balance delta : Int) : Except EngineError Int :=
  let next := balance + delta
  if next < Json.minInt64 ∨ maxSafeAmount < next then
    .error (.amountTooLarge (.sum balance delta))
  else if next < 0 then .error (.negativeBalance entity id)
  else .ok next

/-- A new spend takes its amount unless it failed. A pending one has taken it already: completion
settles the difference, failure gives it back. -/
def spendDelta (existing : Option Snapshot) (incoming : Snapshot) : Int :=
  match existing, incoming.status with
  | none, .pending => -incoming.amount
  | none, .successful => -incoming.amount
  | none, .declined => 0
  | none, .canceled => 0
  | some held, .successful => if held.status = .pending then held.amount - incoming.amount else 0
  | some held, .declined => if held.status = .pending then held.amount else 0
  | some held, .canceled => if held.status = .pending then held.amount else 0
  | some _, .pending => 0

/-- A deposit is credited once, when it first succeeds. -/
def depositDelta (existing : Option Snapshot) (incoming : Snapshot) (credit : Int) : Int :=
  match existing, incoming.status with
  | none, .successful => credit
  | some held, .successful => if held.status = .pending then credit else 0
  | _, _ => 0

def authorizeAmount (status : CardStatus) (balance amount : Int) : Except Rejection Unit :=
  if status ≠ .active then .error .cardNotActive
  else if balance < amount then .error .insufficientBalance
  else .ok ()

def isOwnedBy (card : Card) (owner : CardUser) : Bool :=
  card.cardUserId = owner.id ∧ card.userId = owner.userId

def ensureOwner (card : Card) (owner : CardUser) : Except Rejection Unit :=
  if isOwnedBy card owner then .ok () else .error .unauthorizedCardAccess

end PrepaidLedger
