import PrepaidLedger.Json.Shape
import PrepaidLedger.Ledger.Line

/-!
Transaction events of the card provider: a spend on a card, or collateral that funds a card-user.
-/
namespace PrepaidLedger

open Json.Draft

inductive SpendStatus
  | pending
  | completed
  | declined
  | reversed
deriving DecidableEq, Repr

def SpendStatus.word : SpendStatus → String
  | .pending => "pending"
  | .completed => "completed"
  | .declined => "declined"
  | .reversed => "reversed"

instance : Vocabulary SpendStatus where
  all := [.pending, .completed, .declined, .reversed]
  word := SpendStatus.word

def SpendStatus.toLine : SpendStatus → LineStatus
  | .pending => .pending
  | .completed => .successful
  | .declined => .declined
  | .reversed => .canceled

inductive CollateralStatus
  | pending
  | completed
  | failed
  | canceled
deriving DecidableEq, Repr

def CollateralStatus.word : CollateralStatus → String
  | .pending => "pending"
  | .completed => "completed"
  | .failed => "failed"
  | .canceled => "canceled"

instance : Vocabulary CollateralStatus where
  all := [.pending, .completed, .failed, .canceled]
  word := CollateralStatus.word

def CollateralStatus.toLine : CollateralStatus → LineStatus
  | .pending => .pending
  | .completed => .successful
  | .failed => .declined
  | .canceled => .canceled

structure SpendEvent where
  amount : Binary64
  currency : Option String
  cardRef : String
  userRef : Option String
  status : SpendStatus
  declinedReason : Option String
  merchant : Merchant
deriving DecidableEq, Repr

def SpendEvent.fields : List Field :=
  [required "amount", optional "currency", required "cardId", optional "userId",
    defaulted "status", optional "declinedReason", optional "merchantName",
    optional "merchantCity", optional "merchantCountry", optional "merchantCategory",
    optional "merchantCategoryCode"]

def SpendEvent.read? (d : Json.Draft) : Option SpendEvent :=
  match fields? fields d with
  | some [amount, currency, card, user, status, reason, name, city, country, category, code] => do
    return {
      amount := ← present? float? amount
      currency := ← maybe? text? currency
      cardRef := ← present? text? card
      userRef := ← maybe? text? user
      status := ← orDefault? .pending word? status
      declinedReason := ← maybe? text? reason
      merchant := {
        name := ← maybe? text? name
        city := ← maybe? text? city
        country := ← maybe? text? country
        category := ← maybe? text? category
        categoryCode := ← maybe? text? code } }
  | _ => none

structure CollateralEvent where
  amount : Binary64
  currency : Option String
  userRef : Option String
  chainId : Option Int
  walletAddress : Option String
  transactionHash : Option String
  status : CollateralStatus
deriving DecidableEq, Repr

def CollateralEvent.fields : List Field :=
  [required "amount", optional "currency", optional "userId", optional "chainId",
    optional "walletAddress", optional "transactionHash", defaulted "status"]

def CollateralEvent.read? (d : Json.Draft) : Option CollateralEvent :=
  match fields? fields d with
  | some [amount, currency, user, chain, wallet, hash, status] => do
    return {
      amount := ← present? float? amount
      currency := ← maybe? text? currency
      userRef := ← maybe? text? user
      chainId := ← maybe? int64? chain
      walletAddress := ← maybe? text? wallet
      transactionHash := ← maybe? text? hash
      status := ← orDefault? .completed word? status }
  | _ => none

structure TransactionEvent where
  id : String
  kind : String
  spend : Option SpendEvent
  collateral : Option CollateralEvent
deriving DecidableEq, Repr

def TransactionEvent.fields : List Field :=
  [required "id", required "type", optional "spend", optional "collateral"]

def TransactionEvent.read? (d : Json.Draft) : Option TransactionEvent :=
  match fields? fields d with
  | some [id, kind, spend, collateral] => do
    return {
      id := ← present? text? id
      kind := ← present? text? kind
      spend := ← maybe? SpendEvent.read? spend
      collateral := ← maybe? CollateralEvent.read? collateral }
  | _ => none

end PrepaidLedger
