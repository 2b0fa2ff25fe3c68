import PrepaidLedger.Engine.Program
import PrepaidLedger.Engine.Settings
import PrepaidLedger.Event.Transaction
import PrepaidLedger.Ledger.Balance

/-!
From an event to what is to be written: who is concerned, what the line will say, and whether the
stored line lets it through. Nothing here writes, and nothing read here is relied on later.
-/
namespace PrepaidLedger

structure Posting where
  reference : String
  kind : LineKind
  status : LineStatus
  amount : Int
  fee : FeeQuote
  credit : Int
  currency : String
  merchant : Merchant
  declineReason : Option String
  metadata : Json
  countsDecline : Bool
deriving Repr

namespace Posting

def snapshot (p : Posting) : Snapshot := ⟨p.status, p.amount⟩

def delta (p : Posting) (existing : Option Snapshot) : Int :=
  match p.kind with
  | .spend => spendDelta existing p.snapshot
  | .deposit => depositDelta existing p.snapshot p.credit

def resetsDeclines (p : Posting) : Bool := p.kind = .spend && p.status = .successful

def ofSpend (s : Settings) (reference : String) (amount : Int) (card : Card) (e : SpendEvent) :
    Posting :=
  let status := e.status.toLine
  let countsDecline := status = .declined && isInsufficientFunds e.declinedReason
  { reference := reference
    kind := .spend
    status := status
    amount := amount
    fee := if countsDecline then s.fees.quote .decline amount else .free
    credit := 0
    currency := e.currency.getD s.currency
    merchant := e.merchant
    declineReason := e.declinedReason
    metadata := .object [
      ("cardId", .string card.id.text),
      ("cardLastFour", Json.ofOption .string card.lastFour),
      ("merchantName", Json.ofOption .string e.merchant.name),
      ("merchantCategory", Json.ofOption .string e.merchant.category)]
    countsDecline := countsDecline }

/-- Fee and net credit of collateral; collateral that failed has neither. -/
def collateralTerms (fees : FeeSchedule) (status : LineStatus) (amount : Int) :
    Except EngineError (FeeQuote × Int) :=
  match status with
  | .pending | .successful =>
    let fee := fees.quote .deposit amount
    (depositCredit amount fee.fee).map fun credit => (fee, credit)
  | .declined | .canceled => .ok (.free, 0)

def ofCollateral (s : Settings) (reference : String) (amount : Int) (card : Card)
    (e : CollateralEvent) : Except EngineError Posting :=
  let status := e.status.toLine
  (collateralTerms s.fees status amount).map fun (fee, credit) =>
    { reference := reference
      kind := .deposit
      status := status
      amount := amount
      fee := fee
      credit := credit
      currency := e.currency.getD s.currency
      merchant := .unknown
      declineReason := none
      metadata := .object [
        ("cardId", .string card.id.text),
        ("chainId", Json.ofOption .int e.chainId),
        ("walletAddress", Json.ofOption .string e.walletAddress),
        ("transactionHash", Json.ofOption .string e.transactionHash)]
      countsDecline := false }

end Posting

structure Delivery where
  cardId : Uuid
  userId : Uuid
  cardUserId : Uuid
  posting : Posting
deriving Repr

def Delivery.lockKey (d : Delivery) : LockKey :=
  .ofTransaction d.userId d.posting.reference d.cardId

inductive Dismissal
  | duplicate
  | rejected (r : Rejection)
deriving DecidableEq, Repr

def Verdict.dismissal? : Verdict → Option Dismissal
  | .proceed => none
  | .duplicate => some .duplicate
  | .reject r => some (.rejected r)

/-! ## Who is concerned -/

def spendParties (e : SpendEvent) : Task (Except Rejection (Card × CardUser)) := do
  match ← Task.store (.cardByRef e.cardRef) with
  | none => return .error .cardNotFound
  | some card =>
    let owner? ← match e.userRef with
      | some ref => Task.store (.cardUserByRef ref)
      | none => Task.store (.cardUserById card.cardUserId)
    match owner? with
    | none => return .error .cardUserNotFound
    | some owner => return (ensureOwner card owner).map fun _ => (card, owner)

def addressOwner (e : CollateralEvent) : Task (Option CardUser) := do
  match e.chainId, e.walletAddress with
  | some chainId, some address =>
    match ← Task.store (.depositAddress chainId address) with
    | none => return none
    | some a => Task.store (.cardUserByUser a.userId)
  | _, _ => return none

def collateralOwner (e : CollateralEvent) : Task (Option CardUser) := do
  match e.userRef with
  | none => addressOwner e
  | some ref =>
    match ← Task.store (.cardUserByRef ref) with
    | some owner => return some owner
    | none => addressOwner e

def collateralParties (e : CollateralEvent) : Task (Except Rejection (Card × CardUser)) := do
  match ← collateralOwner e with
  | none => return .error .cardUserNotFound
  | some owner =>
    match ← Task.store (.primaryCard owner.id) with
    | none => return .error .cardNotFound
    | some card => return (ensureOwner card owner).map fun _ => (card, owner)

/-! ## Preparing -/

def screen (s : Settings) (card : Card) (owner : CardUser) (p : Posting) :
    Task (Except Dismissal Delivery) := do
  let stored ← Task.store (.lineByRef p.reference)
  if stored.any (·.cardId ≠ card.id) then return .error (.rejected .unauthorizedCardAccess)
  match (validateTransition (stored.map (·.snapshot)) p.snapshot s.tolerance).dismissal? with
  | some d => return .error d
  | none => return .ok ⟨card.id, card.userId, owner.id, p⟩

def prepareSpend (s : Settings) (reference : String) (e : SpendEvent) :
    Task (Except Dismissal Delivery) := do
  let amount ← Task.ofExcept (toMinorUnits e.amount)
  match ← spendParties e with
  | .error r => return .error (.rejected r)
  | .ok (card, owner) => screen s card owner (.ofSpend s reference amount card e)

def prepareCollateral (s : Settings) (reference : String) (e : CollateralEvent) :
    Task (Except Dismissal Delivery) := do
  let amount ← Task.ofExcept (toMinorUnits e.amount)
  match ← collateralParties e with
  | .error r => return .error (.rejected r)
  | .ok (card, owner) =>
    let p ← Task.ofExcept (Posting.ofCollateral s reference amount card e)
    screen s card owner p

/-- Decides about a spend that is only asked for; the answer is the card that covers it. -/
def authorizeSpend (e : SpendEvent) : Task (Except Rejection Card) := do
  let amount ← Task.ofExcept (toMinorUnits e.amount)
  match ← spendParties e with
  | .error r => return .error r
  | .ok (card, _) => return (authorizeAmount card.status card.balance amount).map fun _ => card

end PrepaidLedger
